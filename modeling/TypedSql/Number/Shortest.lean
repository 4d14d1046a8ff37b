import TypedSql.Number.Binary64

/-!
# The shortest decimal that reads back

A finite float stands for every real number that rounds to it, an interval around its value. Its
shortest decimal is the point of that interval with the fewest digits; of several, the one nearest
to the value, and of two equally near ones the upper.

The search is exact: value and interval are fractions over one denominator, and for each number of
digits only the two grid points around the value need a look, since any grid point inside the
interval has one of them between itself and the value.
-/

namespace TypedSql

/-- The number `digits · 10 ^ exponent`. -/
structure Digits where
  digits : Nat
  exponent : Int
deriving DecidableEq, Repr

namespace Digits

/-- A value with the interval that rounds to it, as numerators over one denominator. -/
structure Rounding where
  low : Nat
  value : Nat
  high : Nat
  denominator : Nat
  /-- The ends of the interval round to the value too. -/
  closed : Bool

/-- The rounding interval of `significand · 2 ^ exponent`. -/
def Rounding.ofFinite (significand : Nat) (exponent : Int) : Rounding :=
  let below := if Binary64.isBinadeStart significand exponent then 1 else 2
  let shift := exponent - 2
  let unit := twoTo shift.toNat
  { low := (4 * significand - below) * unit
    value := 4 * significand * unit
    high := (4 * significand + 2) * unit
    denominator := twoTo (-shift).toNat
    closed := significand % 2 == 0 }

/-- The grid point `n · 10 ^ exponent` lies in the interval. -/
def Rounding.admits (r : Rounding) (n : Nat) (exponent : Int) : Bool :=
  let point := n * tenTo exponent.toNat * r.denominator
  let scale := tenTo (-exponent).toNat
  if r.closed then r.low * scale ≤ point && point ≤ r.high * scale
  else r.low * scale < point && point < r.high * scale

/-- The grid point at or just below the value on the grid of `10 ^ exponent`. -/
def Rounding.below (r : Rounding) (exponent : Int) : Nat :=
  r.value * tenTo (-exponent).toNat / (r.denominator * tenTo exponent.toNat)

/-- The value is nearer to the grid point `n` than to `n + 1`. -/
def Rounding.nearerBelow (r : Rounding) (n : Nat) (exponent : Int) : Bool :=
  2 * r.value * tenTo (-exponent).toNat < (2 * n + 1) * (r.denominator * tenTo exponent.toNat)

/-- The admitted neighbour of the value on one grid. -/
def Rounding.pick? (r : Rounding) (exponent : Int) : Option Nat :=
  let n := r.below exponent
  match r.admits n exponent && n != 0, r.admits (n + 1) exponent with
  | true, true => some (if r.nearerBelow n exponent then n else n + 1)
  | true, false => some n
  | false, true => some (n + 1)
  | false, false => none

/-- The exponent of the first digit of `numerator / denominator`, both positive. -/
def leadingExponent (numerator denominator : Nat) : Int :=
  if denominator ≤ numerator then
    ((Nat.toDigits 10 (numerator / denominator)).length : Int) - 1
  else
    let digits := (Nat.toDigits 10 (denominator / numerator)).length
    if denominator ≤ numerator * tenTo (digits - 1) then -((digits : Int) - 1) else -digits

/-- Divides out the trailing zeros; `fuel` bounds their number. -/
def strip (d : Digits) : Nat → Digits
  | 0 => d
  | fuel + 1 =>
    if d.digits ≠ 0 ∧ d.digits % 10 = 0 then
      strip ⟨d.digits / 10, d.exponent + 1⟩ fuel
    else d

/-- The shortest decimal of a positive float; seventeen digits always suffice. -/
def shortest (significand : Nat) (exponent : Int) : Digits :=
  if significand = 0 then ⟨0, 0⟩
  else
    let r := Rounding.ofFinite significand exponent
    let lead := leadingExponent r.value r.denominator
    let tries := (List.range 18).map fun n : Nat => lead - (n : Int)
    match tries.findSome? fun e => (r.pick? e).map fun n => (⟨n, e⟩ : Digits) with
    | some d => strip d 20
    | none => ⟨r.value, 0⟩

/-- The exponent of the first digit. -/
def lead (d : Digits) : Int := d.exponent + (Nat.toDigits 10 d.digits).length - 1

end Digits
end TypedSql
