import TypedSql.Number.Width

/-!
# Decimals of 96 bits

A decimal is a whole number of at most 96 bits with a point set in front of its last digits, at
most 28 of them. Rounding goes to the nearest neighbour and from the middle to the even one.

Main statement: `roundHalfEven_le` keeps rounding within the 96 bits.
-/

namespace TypedSql

/-- The number `mantissa / 10 ^ scale`. -/
structure Decimal where
  mantissa : Int
  scale : Nat
  mantissa_lt : mantissa.natAbs < twoTo 96
  scale_le : scale ≤ 28
deriving DecidableEq, Repr

/-- A number of places behind the point. -/
abbrev Scale := Fin 29

namespace Scale

/-- The greatest number of places. -/
def max : Scale := ⟨28, by decide⟩

/-- The number of places unless another one is asked for. -/
def standard : Scale := ⟨2, by decide⟩

/-- Places beyond the greatest number are cut. -/
def clamp (n : Nat) : Scale := if h : n < 29 then ⟨n, h⟩ else max

end Scale

namespace Decimal

/-- The decimal with the given parts, if they are within bounds. -/
def ofParts? (mantissa : Int) (scale : Nat) : Option Decimal :=
  if h : mantissa.natAbs < twoTo 96 ∧ scale ≤ 28 then some ⟨mantissa, scale, h.1, h.2⟩ else none

/-- The decimal with a magnitude and a sign apart. -/
def ofSigned? (negative : Bool) (magnitude scale : Nat) : Option Decimal :=
  ofParts? (if negative then -(magnitude : Int) else magnitude) scale

/-- A stored integer counts units of the last place. -/
def ofUnits (n : Int64) (scale : Scale) : Decimal where
  mantissa := n.toInt
  scale := scale
  mantissa_lt := by
    have := n.toInt_lt
    have := n.le_toInt
    have : (9223372036854775808 : Nat) < twoTo 96 := by decide
    omega
  scale_le := by omega

/-- A whole number. -/
def ofInt64 (n : Int64) : Decimal := ofUnits n ⟨0, by decide⟩

/-! ## Rounding -/

/-- The quotient rounded to the nearest integer, from the middle to the even one. -/
def roundHalfEven (n d : Nat) : Nat :=
  let q := n / d
  let r := n % d
  if d < 2 * r ∨ (2 * r = d ∧ q % 2 = 1) then q + 1 else q

theorem roundHalfEven_le (n d : Nat) : roundHalfEven n d ≤ n / d + 1 := by
  simp only [roundHalfEven]
  split <;> omega

/-- The quotient rounded to the nearest integer, from the middle to the greater one. -/
def roundHalfUp (n d : Nat) : Nat := if d ≤ 2 * (n % d) then n / d + 1 else n / d

theorem roundHalfUp_le (n d : Nat) : roundHalfUp n d ≤ n / d + 1 := by
  simp only [roundHalfUp]
  split <;> omega

/-- The sign of `like` on the magnitude `n`. -/
def withSignOf (like : Int) (n : Nat) : Int := if like < 0 then -(n : Int) else n

theorem natAbs_withSignOf (like : Int) (n : Nat) : (withSignOf like n).natAbs = n := by
  simp only [withSignOf]
  split <;> omega

/-- Cuts the places behind the first `places`, rounding the magnitude by `round`. -/
def cut (round : Nat → Nat → Nat) (le : ∀ n d, round n d ≤ n / d + 1) (d : Decimal)
    (places : Nat) (h : places < d.scale) : Decimal where
  mantissa := withSignOf d.mantissa (round d.mantissa.natAbs (tenTo (d.scale - places)))
  scale := places
  mantissa_lt := by
    rw [natAbs_withSignOf]
    have hm := d.mantissa_lt
    have hle := le d.mantissa.natAbs (tenTo (d.scale - places))
    have hten : 10 ≤ tenTo (d.scale - places) := ten_le_tenTo (by omega)
    have hwide : 100 < twoTo 96 := by decide
    have hdiv := Nat.div_le_div_left (a := d.mantissa.natAbs) hten (by decide)
    omega
  scale_le := by
    have := d.scale_le
    omega

/-- Rounds to `places`, half to even; a decimal with fewer places stays as it is. -/
def roundTo (d : Decimal) (places : Nat) : Decimal :=
  if h : places < d.scale then d.cut roundHalfEven roundHalfEven_le places h else d

/-- Appends up to `n` zeros, and stops when there is no room for another one. -/
def fill (d : Decimal) : Nat → Decimal
  | 0 => d
  | n + 1 =>
    if h : (d.mantissa * 10).natAbs < twoTo 96 ∧ d.scale < 28 then
      fill ⟨d.mantissa * 10, d.scale + 1, h.1, h.2⟩ n
    else d

/-- Brings a decimal to `places`, with zeros as far as there is room for them, or by rounding, half
away from zero. -/
def rescale (d : Decimal) (places : Nat) : Decimal :=
  if h : places < d.scale then d.cut roundHalfUp roundHalfUp_le places h
  else d.fill (places - d.scale)

/-! ## Text -/

/-- All places are written, those that are zero too. -/
def toText (d : Decimal) : String :=
  let digits := Nat.toDigits 10 d.mantissa.natAbs
  let padded := List.replicate (d.scale + 1 - digits.length) '0' ++ digits
  let cut := padded.length - d.scale
  let sign := if d.mantissa < 0 then "-" else ""
  let whole := sign ++ String.ofList (padded.take cut)
  if d.scale = 0 then whole else whole ++ "." ++ String.ofList (padded.drop cut)

end Decimal
end TypedSql
