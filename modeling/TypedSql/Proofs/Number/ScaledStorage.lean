import TypedSql.Kind.Conversion
import TypedSql.Proofs.Number.StandardDecimals

/-!
# Decimals stored as integers

**Theorem (`Kind.decimal_exact`).** A decimal of a kind with `s` places is stored as its value
times `10 ^ s`, rounded half to even, if 64 bits hold that, and is out of range otherwise. Every
integer is read as that many units of the last place and stored again as itself, so a stored
decimal is read as the decimal rounded to `s` places, and the order of decimals is that of the
integers. A whole number handed to the kind is stored without being rounded.

The kind rounds, fills up with zeros and drops the point. Filling up stops when 96 bits are used
up; what does not fit there is far beyond 64 bits, so a mantissa that was filled up in part is never
taken for a stored one (`Kind.int64?_rescale`).
-/

namespace TypedSql

/-! ## 64 bits -/

theorem int64?_toInt (n : Int64) : int64? n.toInt = some n := by
  have upper := n.toInt_lt
  have lower := n.le_toInt
  rw [int64?, if_pos (by omega), Int64.ofInt_toInt]

theorem int64?_eq_some_iff {m : ℤ} {n : Int64} : int64? m = some n ↔ n.toInt = m := by
  refine ⟨fun fits => ?_, fun same => same ▸ int64?_toInt n⟩
  unfold int64? at fits
  split at fits
  · rename_i bounds
    cases fits
    exact Int64.toInt_ofInt_of_le bounds.1 (by omega)
  · cases fits

theorem int64?_eq_none_iff {m : ℤ} : int64? m = none ↔ ∀ n : Int64, n.toInt ≠ m := by
  simp only [Option.eq_none_iff_forall_ne_some, ne_eq, int64?_eq_some_iff]

theorem int64?_eq_none_of_natAbs {m : ℤ} (wide : 2 ^ 63 < m.natAbs) : int64? m = none := by
  rw [int64?, if_neg (by omega)]

/-! ## Rounding to the places of a kind -/

namespace DecimalLibrary

variable {L : DecimalLibrary} (documented : L.Documented)
include documented

/-- Rounded to places, a decimal is the nearest number of units of the last one. -/
theorem halfEven_eq_roundTo (d : L.Decimal) (places : ℕ) :
    halfEven (L.value d * 10 ^ places)
      = L.mantissa (L.roundTo d places) * 10 ^ (places - L.scale (L.roundTo d places)) :=
  halfEven_eq_iff.mpr (documented.nearest_roundTo d places)

theorem value_roundTo (d : L.Decimal) (places : ℕ) :
    L.value (L.roundTo d places) = halfEven (L.value d * 10 ^ places) / 10 ^ places := by
  rw [halfEven_eq_roundTo documented, eq_div_iff (by positivity),
    value_mul_of_scale_le (documented.scale_roundTo_le d places)]

/-- Where filling up stops, 64 bits are exceeded already. -/
theorem int64?_rescale {d : L.Decimal} {places : ℕ} (le : L.scale d ≤ places)
    (within : places ≤ 28) :
    int64? (L.mantissa (L.rescale d places))
      = int64? (L.mantissa d * 10 ^ (places - L.scale d)) := by
  obtain ⟨zeros, some, filled, full⟩ := documented.zeros_of_rescale le within
  rw [filled]
  rcases some.eq_or_lt with all | fewer
  · rw [all]
  · have wide := full fewer
    have next : (L.mantissa d * 10 ^ (zeros + 1)).natAbs
        = (L.mantissa d * 10 ^ zeros).natAbs * 10 := by
      rw [pow_succ _ zeros, ← mul_assoc, Int.natAbs_mul _ 10]
      rfl
    rw [next] at wide
    have partly : 2 ^ 63 < (L.mantissa d * 10 ^ zeros).natAbs := by omega
    have grown : (L.mantissa d * 10 ^ zeros).natAbs
        ≤ (L.mantissa d * 10 ^ (places - L.scale d)).natAbs := by
      rw [Int.natAbs_mul, Int.natAbs_mul, Int.natAbs_pow, Int.natAbs_pow]
      exact Nat.mul_le_mul_left _ (Nat.pow_le_pow_right (by decide) some)
    rw [int64?_eq_none_of_natAbs partly, int64?_eq_none_of_natAbs (partly.trans_le grown)]

end DecimalLibrary

namespace Kind

open DecimalLibrary

section Libraries

variable [lib : Libraries]

section Documented

variable (documented : lib.decimals.Documented) {s : Scale} {d : lib.decimals.Decimal}
include documented

/-! ## Storing -/

/-- A decimal is stored as the nearest number of units, if 64 bits hold it. -/
theorem encodeDecimal_eq (s : Scale) (d : lib.decimals.Decimal) :
    encodeDecimal s d =
      match int64? (halfEven (lib.decimals.value d * 10 ^ (s : ℕ))) with
      | some n => .ok (.integer n)
      | none => .error (.outOfRange "decimal" (lib.decimals.toText d)) := by
  have within : (s : ℕ) ≤ 28 := by omega
  rw [halfEven_eq_roundTo documented,
    ← int64?_rescale documented (documented.scale_roundTo_le d s) within]
  rfl

theorem encodeDecimal_of_fits {m : Int64}
    (fits : m.toInt = halfEven (lib.decimals.value d * 10 ^ (s : ℕ))) :
    encodeDecimal s d = .ok (.integer m) := by
  rw [encodeDecimal_eq documented, int64?_eq_some_iff.mpr fits]

theorem encodeDecimal_of_exceeds
    (exceeds : ∀ m : Int64, m.toInt ≠ halfEven (lib.decimals.value d * 10 ^ (s : ℕ))) :
    encodeDecimal s d = .error (.outOfRange "decimal" (lib.decimals.toText d)) := by
  rw [encodeDecimal_eq documented, int64?_eq_none_iff.mpr exceeds]

/-- Whatever is stored is the rounded value. -/
theorem stored_of_encodeDecimal {v : StorageValue} (stores : encodeDecimal s d = .ok v) :
    ∃ m : Int64, v = .integer m
      ∧ m.toInt = halfEven (lib.decimals.value d * 10 ^ (s : ℕ)) := by
  by_cases fits : ∃ m : Int64, m.toInt = halfEven (lib.decimals.value d * 10 ^ (s : ℕ))
  · obtain ⟨m, fits⟩ := fits
    rw [encodeDecimal_of_fits documented fits] at stores
    exact ⟨m, (Except.ok.inj stores).symm, fits⟩
  · rw [encodeDecimal_of_exceeds documented (not_exists.mp fits)] at stores
    cases stores

/-! ## Units -/

/-- Every integer is a number of units. -/
theorem exists_decodeDecimal (s : Scale) (n : Int64) :
    ∃ d, decodeDecimal s (.integer n) = .ok d
      ∧ lib.decimals.value d = n.toInt / 10 ^ (s : ℕ) := by
  have upper := n.toInt_lt
  have lower := n.le_toInt
  obtain ⟨d, made⟩ : ∃ d, lib.decimals.ofParts? n.toInt s = some d :=
    documented.exists_ofParts? (by omega) (by omega)
  refine ⟨d, by rw [decodeDecimal, made], ?_⟩
  rw [value, documented.mantissa_of_ofParts? made, documented.scale_of_ofParts? made]

theorem encodeDecimal_of_units {n : Int64}
    (units : lib.decimals.value d = n.toInt / 10 ^ (s : ℕ)) :
    encodeDecimal s d = .ok (.integer n) := by
  refine encodeDecimal_of_fits documented ?_
  rw [units, div_mul_cancel₀ _ (by positivity), halfEven_intCast]

theorem halfEven_ofInt64 (n : Int64) (s : Scale) :
    halfEven (lib.decimals.value (lib.decimals.ofInt64 n) * 10 ^ (s : ℕ))
      = n.toInt * 10 ^ (s : ℕ) := by
  rw [documented.value_ofInt64]
  exact_mod_cast halfEven_intCast (n.toInt * 10 ^ (s : ℕ))

end Documented

/-! ## The kind -/

/-- **A decimal kind stores exactly.** -/
theorem decimal_exact (documented : lib.decimals.Documented) (s : Scale) :
    (∀ (d : lib.decimals.Decimal) (m : Int64),
        m.toInt = halfEven (lib.decimals.value d * 10 ^ (s : ℕ)) →
        (Kind.decimal s).encode d = .ok (.integer m))
      ∧ (∀ d : lib.decimals.Decimal,
        (∀ m : Int64, m.toInt ≠ halfEven (lib.decimals.value d * 10 ^ (s : ℕ))) →
        (Kind.decimal s).encode d = .error (.outOfRange "decimal" (lib.decimals.toText d)))
      ∧ (∀ n : Int64, ∃ d, (Kind.decimal s).decode (.integer n) = .ok d
        ∧ lib.decimals.value d = n.toInt / 10 ^ (s : ℕ)
        ∧ (Kind.decimal s).encode d = .ok (.integer n))
      ∧ (∀ (d : lib.decimals.Decimal) (v : StorageValue), (Kind.decimal s).encode d = .ok v →
        ∃ e, (Kind.decimal s).decode v = .ok e
          ∧ lib.decimals.value e
            = halfEven (lib.decimals.value d * 10 ^ (s : ℕ)) / 10 ^ (s : ℕ)
          ∧ lib.decimals.value e = lib.decimals.value (lib.decimals.roundTo d s))
      ∧ (∀ (d e : lib.decimals.Decimal) (m n : Int64),
        lib.decimals.value d ≤ lib.decimals.value e →
        (Kind.decimal s).encode d = .ok (.integer m) →
        (Kind.decimal s).encode e = .ok (.integer n) → m ≤ n)
      ∧ (∀ n m : Int64, m.toInt = n.toInt * 10 ^ (s : ℕ) →
        (Kind.decimal s).coerce (.integer n) = .ok (.integer m))
      ∧ ∀ n : Int64, (∀ m : Int64, m.toInt ≠ n.toInt * 10 ^ (s : ℕ)) →
        (Kind.decimal s).coerce (.integer n)
          = .error (.outOfRange "decimal" (lib.decimals.toText (lib.decimals.ofInt64 n))) := by
  refine ⟨fun d m fits => encodeDecimal_of_fits documented fits,
    fun d exceeds => encodeDecimal_of_exceeds documented exceeds, fun n => ?_, fun d v stores => ?_,
    fun d e m n le left right => ?_, fun n m fits => ?_, fun n exceeds => ?_⟩
  · obtain ⟨d, read, units⟩ := exists_decodeDecimal documented s n
    exact ⟨d, read, units, encodeDecimal_of_units documented units⟩
  · obtain ⟨m, rfl, rounded⟩ := stored_of_encodeDecimal documented stores
    obtain ⟨e, read, units⟩ := exists_decodeDecimal documented s m
    refine ⟨e, read, ?_, ?_⟩
    · rw [units, rounded]
    · rw [units, value_roundTo documented, rounded]
  · obtain ⟨_, same, first⟩ := stored_of_encodeDecimal documented left
    cases same
    obtain ⟨_, same, second⟩ := stored_of_encodeDecimal documented right
    cases same
    rw [Int64.le_iff_toInt_le, first, second]
    exact halfEven_mono (mul_le_mul_of_nonneg_right le (by positivity))
  · refine encodeDecimal_of_fits documented ?_
    rw [fits, halfEven_ofInt64 documented]
  · refine encodeDecimal_of_exceeds documented ?_
    simpa only [halfEven_ofInt64 documented] using exceeds

end Libraries

/-- Cents: 1.005 goes down to an even number of them and -1.015 away from an odd one. -/
theorem decimal_exact_of_cents :
    standardDecimals.Documented
      ∧ (Kind.decimal .standard).encode (⟨1005, 3, by decide, by decide⟩ : Decimal)
        = .ok (.integer 100)
      ∧ (Kind.decimal .standard).encode (⟨-1015, 3, by decide, by decide⟩ : Decimal)
        = .ok (.integer (-102))
      ∧ (Kind.decimal .standard).encode
          (⟨9223372036854775808, 0, by decide, by decide⟩ : Decimal)
        = .error (.outOfRange "decimal" "9223372036854775808")
      ∧ (Kind.decimal .standard).coerce (.integer (-7)) = .ok (.integer (-700))
      ∧ (Kind.decimal .standard).coerce (.integer 9223372036854775807)
        = .error (.outOfRange "decimal" "9223372036854775807") := by
  obtain ⟨fits, exceeds, -, -, -, whole, large⟩ :=
    decimal_exact standardDecimals_documented .standard
  have down : halfEven (standardDecimals.value ⟨1005, 3, by decide, by decide⟩ * 10 ^ 2) = 100 :=
    halfEven_eq_iff.mpr (.inr ⟨by norm_num [Decimal.value_eq], by decide⟩)
  have away : halfEven (standardDecimals.value ⟨-1015, 3, by decide, by decide⟩ * 10 ^ 2) = -102 :=
    halfEven_eq_iff.mpr (.inr ⟨by norm_num [Decimal.value_eq], by decide⟩)
  have wide : halfEven (standardDecimals.value ⟨9223372036854775808, 0, by decide, by decide⟩
      * 10 ^ 2) = 922337203685477580800 :=
    halfEven_eq_iff.mpr (.inl (by norm_num [Decimal.value_eq]))
  refine ⟨standardDecimals_documented, fits _ 100 down.symm, fits _ (-102) away.symm,
    exceeds _ fun m same => ?_, whole (-7) (-700) rfl, large _ fun m same => ?_⟩
  · have bound := m.toInt_lt
    have units := same.trans wide
    omega
  · have bound := m.toInt_lt
    have units : m.toInt = 9223372036854775807 * 10 ^ 2 := same
    omega

end Kind
end TypedSql
