/-!
# Calendar dates

Dates of the proleptic Gregorian calendar, from year -262143 to year 262142, and their count in
days from 1 January 1970.
-/

namespace TypedSql

namespace Calendar

def isLeapYear (year : Int) : Bool := year % 4 == 0 && (year % 100 != 0 || year % 400 == 0)

/-- The length of a month; a number that is no month has no days. -/
def daysInMonth (year : Int) (month : Nat) : Nat :=
  match month with
  | 1 | 3 | 5 | 7 | 8 | 10 | 12 => 31
  | 4 | 6 | 9 | 11 => 30
  | 2 => if isLeapYear year then 29 else 28
  | _ => 0

/-- The days of a year in front of a month. -/
def daysBeforeMonth (year : Int) : Nat → Nat
  | 0 => 0
  | month + 1 => daysBeforeMonth year month + daysInMonth year month

/-- The days between 1 January of year 0 and 1 January of `year`. -/
def daysBeforeYear (year : Int) : Int :=
  365 * year + (year + 3) / 4 - (year + 99) / 100 + (year + 399) / 400

/-- The days between 1 January of year 0 and 1 January 1970. -/
def epochDay : Int := 719528

end Calendar

open Calendar

/-- A day of the calendar. -/
structure Date where
  year : Int
  month : Nat
  day : Nat
  year_ge : -262143 ≤ year
  year_le : year ≤ 262142
  day_pos : 1 ≤ day
  day_le : day ≤ daysInMonth year month
deriving DecidableEq, Repr

namespace Date

/-- The date with the given fields, if there is one. -/
def of? (year : Int) (month day : Nat) : Option Date :=
  if h : -262143 ≤ year ∧ year ≤ 262142 ∧ 1 ≤ day ∧ day ≤ daysInMonth year month then
    some ⟨year, month, day, h.1, h.2.1, h.2.2.1, h.2.2.2⟩
  else none

theorem of?_self (d : Date) : of? d.year d.month d.day = some d := by
  simp [of?, d.year_ge, d.year_le, d.day_pos, d.day_le]

/-- A date has a month, since a number that is none has no days. -/
theorem month_bounds (d : Date) : 1 ≤ d.month ∧ d.month ≤ 12 := by
  have h := Nat.le_trans d.day_pos d.day_le
  unfold daysInMonth at h
  split at h <;> simp_all

/-- The first date of the calendar. -/
def first : Date := ⟨-262143, 1, 1, by decide, by decide, Nat.zero_lt_one, by decide⟩

/-- The last date of the calendar. -/
def last : Date := ⟨262142, 12, 31, by decide, by decide, by decide, by decide⟩

/-- Days from 1 January 1970. -/
def unixDay (d : Date) : Int :=
  daysBeforeYear d.year + daysBeforeMonth d.year d.month + d.day - 1 - epochDay

/-- The month that holds a day of the year, counted from zero. -/
def monthOfDay (year : Int) (dayOfYear : Nat) : Nat :=
  ((List.range 12).filter fun m => daysBeforeMonth year (m + 1) ≤ dayOfYear).length

/-- The date that many days from 1 January 1970, within the range of dates. -/
def ofUnixDay? (n : Int) : Option Date :=
  let day := n + epochDay
  let era := day / 146097
  let dayOfEra := day % 146097
  -- A year of the era has at most 366 days, so the quotient falls short by two years at most.
  let guess := dayOfEra / 366
  let yearOfEra :=
    if daysBeforeYear (guess + 2) ≤ dayOfEra then guess + 2
    else if daysBeforeYear (guess + 1) ≤ dayOfEra then guess + 1
    else guess
  let year := 400 * era + yearOfEra
  let dayOfYear := (dayOfEra - daysBeforeYear yearOfEra).toNat
  let month := monthOfDay year dayOfYear
  of? year month (dayOfYear - daysBeforeMonth year month + 1)

end Date
end TypedSql
