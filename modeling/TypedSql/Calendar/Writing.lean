/-!
# Dates and times as text

Date and time are written from the greatest unit to the smallest, with a fixed number of digits
each. Years outside 0 to 9999 carry a sign; the fraction of a second has 0, 3, 6 or 9 digits, as
few as keep it whole; a leap second is second 60.
-/

namespace TypedSql.Calendar

/-- The digits of `n`, at least `width` of them. -/
def padded (width n : Nat) : List Char :=
  let digits := Nat.toDigits 10 n
  List.replicate (width - digits.length) '0' ++ digits

/-- Four digits, or a sign and at least four. -/
def yearText (year : Int) : List Char :=
  if 0 ≤ year ∧ year ≤ 9999 then padded 4 year.toNat
  else (if year < 0 then '-' else '+') :: padded 4 year.natAbs

/-- `YYYY-MM-DD`. -/
def dateText (year : Int) (month day : Nat) : List Char :=
  yearText year ++ '-' :: padded 2 month ++ '-' :: padded 2 day

/-- The fraction of a second with its point, nothing for a whole second. -/
def fractionText (nanosecond : Nat) : List Char :=
  if nanosecond = 0 then []
  else if nanosecond % 1000000 = 0 then '.' :: padded 3 (nanosecond / 1000000)
  else if nanosecond % 1000 = 0 then '.' :: padded 6 (nanosecond / 1000)
  else '.' :: padded 9 nanosecond

/-- `HH:MM:SS` and the fraction. -/
def clockText (hour minute second fraction : Nat) : List Char :=
  padded 2 hour ++ ':' :: padded 2 minute ++ ':' :: padded 2 second ++ fractionText fraction

end TypedSql.Calendar
