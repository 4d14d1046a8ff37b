/-!
# The library of decimals

Decimals are the values of a library. `DecimalLibrary` has their parts and the functions that the
decimal kind calls, and says nothing about what these do; what is documented of them is stated in
`DecimalLibrary.Documented`.
-/

namespace TypedSql

structure DecimalLibrary where
  /-- A number `mantissa / 10 ^ scale`. -/
  Decimal : Type
  mantissa : Decimal → Int
  scale : Decimal → Nat
  /-- The decimal with these parts, if there is one: `try_from_i128_with_scale`. -/
  ofParts? : Int → Nat → Option Decimal
  /-- A whole number: `from`. -/
  ofInt64 : Int64 → Decimal
  /-- The decimal of a float, if there is one: `try_from`. -/
  ofFloat? : Float → Option Decimal
  /-- The decimal of a text, if it is a numeral: `parse`. -/
  read? : String → Option Decimal
  /-- `to_string`. -/
  toText : Decimal → String
  /-- Rounding to so many places: `round_dp`. -/
  roundTo : Decimal → Nat → Decimal
  /-- The same number with so many places, as far as there is room: `rescale`. -/
  rescale : Decimal → Nat → Decimal

end TypedSql
