import TypedSql.Number.Width

/-!
# The exact value of a binary floating-point number

A finite `Float` is `significand · 2 ^ exponent` with a sign. Everything that needs the exact
value, such as the shortest text or the conversion to an integer, starts from this view.
-/

namespace TypedSql

/-- A `Float` taken apart. -/
inductive Binary64 where
  | nan
  | infinite (negative : Bool)
  | finite (negative : Bool) (significand : Nat) (exponent : Int)
deriving DecidableEq, Repr

namespace Binary64

/-- Reads the three fields of the 64 bits; below the exponent field 1 the hidden bit is absent. -/
def ofBits (bits : Nat) : Binary64 :=
  let negative := bits / twoTo 63 % 2 == 1
  let field : Nat := bits / twoTo 52 % 2048
  let fraction : Nat := bits % twoTo 52
  if field = 2047 then
    if fraction = 0 then .infinite negative else .nan
  else if field = 0 then .finite negative fraction (-1074)
  else .finite negative (fraction + twoTo 52) (field - 1075)

def ofFloat (x : Float) : Binary64 := ofBits x.toBits.toNat

/-- `significand · 2 ^ exponent` if that is a whole number. -/
def wholePart? (significand : Nat) (exponent : Int) : Option Nat :=
  if 0 ≤ exponent then some (significand * twoTo exponent.toNat)
  else
    let unit := twoTo exponent.natAbs
    if significand % unit = 0 then some (significand / unit) else none

/-- The value as an integer, if it is one. -/
def toInt? : Binary64 → Option Int
  | .finite negative significand exponent =>
    (wholePart? significand exponent).map fun n => if negative then -(n : Int) else n
  | _ => none

/-- The gap below the value is half of the gap above it: the significand is a power of two and
the exponent is not the least one. -/
def isBinadeStart (significand : Nat) (exponent : Int) : Bool :=
  significand == twoTo 52 && decide (-1074 < exponent)

end Binary64
end TypedSql
