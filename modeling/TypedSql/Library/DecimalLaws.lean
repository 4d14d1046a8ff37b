import TypedSql.Library.Decimal
import TypedSql.Number.Numeral
import TypedSql.Proofs.Number.HalfEven

/-!
# What is documented of decimals

A decimal is a number of at most 96 bits and 28 places. `round_dp` rounds half to even, `rescale`
appends zeros until it has the places asked for or 96 bits are used up, and a numeral with places
enough is read as it stands.
-/

namespace TypedSql.DecimalLibrary

variable (L : DecimalLibrary)

/-- The number a decimal stands for. -/
def value (d : L.Decimal) : ℚ := L.mantissa d / 10 ^ L.scale d

variable {L} in
/-- With places enough the units of the last place are a whole number. -/
theorem value_mul_of_scale_le {d : L.Decimal} {places : ℕ} (h : L.scale d ≤ places) :
    L.value d * 10 ^ places = (L.mantissa d * 10 ^ (places - L.scale d) : ℤ) := by
  obtain ⟨more, rfl⟩ := Nat.exists_eq_add_of_le h
  have unit : (10 : ℚ) ^ L.scale d ≠ 0 := by positivity
  rw [value, Nat.add_sub_cancel_left, pow_add]
  push_cast
  field_simp

structure Documented : Prop where
  mantissa_lt : ∀ d, (L.mantissa d).natAbs < 2 ^ 96
  mantissa_of_ofParts? : ∀ {m : ℤ} {places : ℕ} {d : L.Decimal}, L.ofParts? m places = some d →
    L.mantissa d = m
  scale_of_ofParts? : ∀ {m : ℤ} {places : ℕ} {d : L.Decimal}, L.ofParts? m places = some d →
    L.scale d = places
  exists_ofParts? : ∀ {m : ℤ} {places : ℕ}, m.natAbs < 2 ^ 96 → places ≤ 28 →
    ∃ d, L.ofParts? m places = some d
  value_ofInt64 : ∀ n, L.value (L.ofInt64 n) = n.toInt
  scale_roundTo_le : ∀ d places, L.scale (L.roundTo d places) ≤ places
  /-- The mantissa, filled up to all places, is the nearest number of units of the last of them. -/
  nearest_roundTo : ∀ d places, IsNearest (L.value d * 10 ^ places)
    (L.mantissa (L.roundTo d places) * 10 ^ (places - L.scale (L.roundTo d places)))
  /-- Zeros are appended, and there are too few of them only for want of room. -/
  zeros_of_rescale : ∀ {d : L.Decimal} {places : ℕ}, L.scale d ≤ places → places ≤ 28 →
    ∃ zeros ≤ places - L.scale d, L.mantissa (L.rescale d places) = L.mantissa d * 10 ^ zeros
      ∧ (zeros < places - L.scale d → 2 ^ 96 ≤ (L.mantissa d * 10 ^ (zeros + 1)).natAbs)
  value_of_read? : ∀ {whole places : List Char},
    (∀ c ∈ whole ++ places, Text.isAsciiDigit c = true) → whole ≠ [] → places ≠ [] →
    places.length ≤ 28 → Numeral.ofDigits 0 (whole ++ places) < 2 ^ 96 →
    ∃ d, L.read? (String.ofList (whole ++ '.' :: places)) = some d
      ∧ L.value d = Numeral.ofDigits 0 (whole ++ places) / 10 ^ places.length

end TypedSql.DecimalLibrary
