import TypedSql.Number.Binary64
import TypedSql.Number.Decimal.Basic

/-!
# Decimals from floats

A float `m · 2 ^ q` with `q` at least zero is a whole number and its decimal is exact; one of more
than 96 bits has none. For a negative `q` the power of two becomes a power of ten times a power of
five, and the fives are worked into a mantissa of 96 bits, as exactly as its room allows. What a
float cannot vouch for is then cut: the mantissa is brought down to 52 bits, and zeros at its end
are dropped.
-/

namespace TypedSql.Decimal

/-- A magnitude `mantissa · 10 ^ exponent` under way. -/
structure Draft where
  mantissa : Nat
  exponent : Int

namespace Draft

/-- One factor of two in the denominator: halve, or multiply by five for a tenth. -/
def halve (d : Draft) : Draft :=
  if d.mantissa % 2 = 0 then ⟨d.mantissa / 2, d.exponent + 1⟩
  else if 5 * d.mantissa < twoTo 96 then ⟨5 * d.mantissa, d.exponent⟩
  else ⟨d.mantissa / 2, d.exponent + 1⟩

/-- Drops the last digit, a five going up. -/
def dropDigit (d : Draft) : Draft :=
  ⟨d.mantissa / 10 + (if 5 ≤ d.mantissa % 10 then 1 else 0), d.exponent + 1⟩

/-- Drops digits until 28 places are left; a number below all of them is zero. -/
def fitPlaces (d : Draft) : Nat → Draft
  | 0 => d
  | fuel + 1 =>
    if d.exponent < -28 then
      if d.mantissa < 10 then ⟨0, 0⟩ else fitPlaces d.dropDigit fuel
    else d

/-- Drops places until 52 bits are left. -/
def fitPrecision (d : Draft) : Nat → Draft
  | 0 => d
  | fuel + 1 =>
    if d.exponent < 0 ∧ twoTo 52 ≤ d.mantissa then fitPrecision d.dropDigit fuel else d

/-- Drops places that are zero. -/
def dropZeros (d : Draft) : Nat → Draft
  | 0 => d
  | fuel + 1 =>
    if d.exponent < 0 ∧ d.mantissa % 10 = 0 then
      dropZeros ⟨d.mantissa / 10, d.exponent + 1⟩ fuel
    else d

/-- The magnitude `significand / 2 ^ halvings`. -/
def ofBinary (significand halvings : Nat) : Draft :=
  let d := Nat.repeat halve halvings ⟨significand, -halvings⟩
  let d := d.fitPlaces d.exponent.natAbs
  (d.fitPrecision 28).dropZeros 28

end Draft

/-- The decimal nearest to what the float vouches for. -/
def ofFloat? (x : Float) : Option Decimal :=
  match Binary64.ofFloat x with
  | .finite negative significand exponent =>
    if significand = 0 then ofParts? 0 0
    else if 0 ≤ exponent then ofSigned? negative (significand * twoTo exponent.toNat) 0
    else
      let d := Draft.ofBinary significand exponent.natAbs
      ofSigned? negative (d.mantissa * tenTo d.exponent.toNat) (-d.exponent).toNat
  | _ => none

end TypedSql.Decimal
