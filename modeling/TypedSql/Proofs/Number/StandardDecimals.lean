import Mathlib.Data.List.TakeWhile
import TypedSql.Library.DecimalLaws
import TypedSql.Library.Standard

/-!
# The decimals of the project keep to what is documented

**Theorem (`standardDecimals_documented`).** Decimals as the project defines them round half to
even, fill up with zeros as far as 96 bits go and read numerals as they stand.

Rounding works on magnitudes by quotient and remainder; the sign is put back afterwards, and half
to even does not mind (`Decimal.withSignOf_roundHalfEven`). A numeral is read digit by digit, so
that its number is what has been read on top of what is left (`Decimal.Reading.finish?_whole`,
`Decimal.Reading.finish?_places`).
-/

namespace TypedSql.Decimal

open Text Numeral

/-! ## Rounding -/

/-- Rounding by quotient and remainder. -/
theorem halfEven_div (n d : ℕ) (pos : 0 < d) : halfEven ((n : ℚ) / d) = roundHalfEven n d := by
  have quotient : (n : ℤ) = d * (n / d : ℕ) + (n % d : ℕ) := by
    exact_mod_cast (Nat.div_add_mod n d).symm
  have within : n % d < d := Nat.mod_lt n pos
  have down : (n : ℤ) - (n / d : ℕ) * d = (n % d : ℕ) := by
    rw [quotient]
    ring
  have up : (n : ℤ) - ((n / d + 1 : ℕ) : ℤ) * d = (n % d : ℕ) - d := by
    rw [quotient]
    push_cast
    ring
  rw [halfEven_eq_iff, ← Int.cast_natCast n, isNearest_div_iff pos, roundHalfEven]
  split_ifs with upwards
  · rw [up, Int.even_coe_nat, Nat.even_iff]
    omega
  · rw [down, Int.even_coe_nat, Nat.even_iff]
    omega

theorem withSignOf_roundHalfEven (m : ℤ) {d : ℕ} (pos : 0 < d) :
    withSignOf m (roundHalfEven m.natAbs d) = halfEven ((m : ℚ) / d) := by
  rw [withSignOf, ← halfEven_div _ _ pos]
  split_ifs with negative
  · have magnitude : ((m.natAbs : ℕ) : ℚ) = -m := by
      rw [Nat.cast_natAbs, abs_of_neg negative, Int.cast_neg]
    rw [magnitude, neg_div, halfEven_neg, neg_neg]
  · have magnitude : ((m.natAbs : ℕ) : ℚ) = m := by
      rw [Nat.cast_natAbs, abs_of_nonneg (not_lt.mp negative)]
    rw [magnitude]

theorem scale_roundTo_le (d : Decimal) (places : ℕ) : (d.roundTo places).scale ≤ places := by
  unfold roundTo
  split
  · exact le_rfl
  · omega

theorem value_eq (d : Decimal) : standardDecimals.value d = d.mantissa / 10 ^ d.scale := rfl

/-- The units of a place that is cut off are a quotient. -/
theorem value_mul_of_lt_scale {d : Decimal} {places : ℕ} (h : places < d.scale) :
    standardDecimals.value d * 10 ^ places = d.mantissa / (tenTo (d.scale - places) : ℕ) := by
  obtain ⟨more, enough⟩ := Nat.exists_eq_add_of_le h.le
  have unit : (10 : ℚ) ^ places ≠ 0 := by positivity
  have ten : ((tenTo more : ℕ) : ℚ) = 10 ^ more := Nat.cast_pow 10 more
  rw [value_eq, enough, Nat.add_sub_cancel_left, pow_add, ten]
  field_simp

/-- **Rounding comes to the nearest number of units.** -/
theorem isNearest_roundTo (d : Decimal) (places : ℕ) :
    IsNearest (standardDecimals.value d * 10 ^ places)
      ((d.roundTo places).mantissa * 10 ^ (places - (d.roundTo places).scale)) := by
  by_cases more : places < d.scale
  · have mantissa : (d.roundTo places).mantissa
        = withSignOf d.mantissa (roundHalfEven d.mantissa.natAbs (tenTo (d.scale - places))) := by
      rw [roundTo, dif_pos more, cut]
    have scale : (d.roundTo places).scale = places := by rw [roundTo, dif_pos more, cut]
    rw [value_mul_of_lt_scale more, mantissa, scale, Nat.sub_self, pow_zero, mul_one,
      withSignOf_roundHalfEven _ (tenTo_pos _)]
    exact isNearest_halfEven _
  · rw [roundTo, dif_neg more, DecimalLibrary.value_mul_of_scale_le (not_lt.mp more),
      ← halfEven_eq_iff, halfEven_intCast]

/-! ## Filling up -/

/-- Zeros are appended until they are enough or there is no room for another one. -/
theorem exists_zeros_of_fill (d : Decimal) {n : ℕ} (within : d.scale + n ≤ 28) :
    ∃ zeros ≤ n, (d.fill n).mantissa = d.mantissa * 10 ^ zeros
      ∧ (zeros < n → 2 ^ 96 ≤ (d.mantissa * 10 ^ (zeros + 1)).natAbs) := by
  induction n generalizing d with
  | zero =>
    exact ⟨0, le_rfl, by rw [fill, pow_zero, mul_one], fun less => absurd less (lt_irrefl 0)⟩
  | succ n ih =>
    rw [fill]
    split
    next room =>
      obtain ⟨zeros, le, filled, full⟩ := ih ⟨d.mantissa * 10, d.scale + 1, room.1, room.2⟩ (by
        dsimp only
        omega)
      have product (k : ℕ) : d.mantissa * 10 * 10 ^ k = d.mantissa * 10 ^ (k + 1) := by ring
      refine ⟨zeros + 1, Nat.succ_le_succ le, by rw [filled, product], fun less => ?_⟩
      rw [← product]
      exact full (Nat.lt_of_succ_lt_succ less)
    next full =>
      have wide : ¬(d.mantissa * 10).natAbs < twoTo 96 := fun room => full ⟨room, by omega⟩
      refine ⟨0, Nat.zero_le _, by rw [pow_zero, mul_one], fun _ => ?_⟩
      rw [zero_add, pow_one]
      exact not_lt.mp wide

/-! ## Numerals -/

namespace Reading

variable {ds rest : List Char}

theorem le_ofDigits (n : ℕ) (ds : List Char) : n ≤ ofDigits n ds := by
  induction ds generalizing n with
  | nil => exact le_rfl
  | cons c ds ih =>
    have next := ih (10 * n + digitValue c)
    have same : ofDigits n (c :: ds) = ofDigits (10 * n + digitValue c) ds := rfl
    omega

/-- One more digit that 96 bits hold. -/
theorem finish?_digit {r : Reading} {c : Char} (digit : isAsciiDigit c = true)
    (room : ¬(r.behindPoint = true ∧ 28 ≤ r.scale))
    (fits : 10 * r.mantissa + digitValue c < twoTo 96) (rest : List Char) :
    r.finish? (c :: rest)
      = finish? { r with
          mantissa := 10 * r.mantissa + digitValue c
          scale := if r.behindPoint then r.scale + 1 else r.scale
          started := true } rest := by
  rw [finish?, if_neg room, if_pos digit]
  dsimp only
  rw [if_pos fits]

/-- Digits in front of the point make a whole number. -/
theorem finish?_whole (digits : ∀ c ∈ ds, isAsciiDigit c = true) (nonempty : ds ≠ []) {n : ℕ}
    {started : Bool} (fits : ofDigits n ds < twoTo 96) (rest : List Char) :
    finish? ⟨n, 0, false, started⟩ (ds ++ rest) = finish? ⟨ofDigits n ds, 0, false, true⟩ rest := by
  induction ds generalizing n started with
  | nil => exact absurd rfl nonempty
  | cons c ds ih =>
    have room : 10 * n + digitValue c < twoTo 96 := (le_ofDigits _ ds).trans_lt fits
    rw [List.cons_append, finish?_digit (digits c List.mem_cons_self) (by simp) room]
    cases ds with
    | nil => rfl
    | cons e ds =>
      exact ih (fun c mem => digits c (List.mem_cons_of_mem _ mem)) (List.cons_ne_nil e ds) fits

/-- Digits behind the point are counted as places. -/
theorem finish?_places (digits : ∀ c ∈ ds, isAsciiDigit c = true) {n places : ℕ}
    (within : places + ds.length ≤ 28) (fits : ofDigits n ds < twoTo 96) :
    finish? ⟨n, places, true, true⟩ ds = some (ofDigits n ds, places + ds.length) := by
  induction ds generalizing n places with
  | nil => rfl
  | cons c ds ih =>
    have room : 10 * n + digitValue c < twoTo 96 := (le_ofDigits _ ds).trans_lt fits
    have sum : places + (c :: ds).length = places + 1 + ds.length := by
      rw [List.length_cons]
      omega
    rw [finish?_digit (digits c List.mem_cons_self) (by dsimp only; omega) room, sum]
    exact ih (fun c mem => digits c (List.mem_cons_of_mem _ mem)) (sum ▸ within) fits

end Reading

/-- A digit is neither a sign, nor a point, nor the mark of an exponent. -/
theorem splitSign_of_digit {c : Char} (digit : isAsciiDigit c = true) (cs : List Char) :
    splitSign (c :: cs) = (false, c :: cs) := by
  unfold splitSign
  split
  · next same => cases same; exact absurd digit (by decide)
  · next same => cases same; exact absurd digit (by decide)
  · rfl

theorem isExponentMark_of_digit {c : Char} (digit : isAsciiDigit c = true) :
    isExponentMark c = false := by
  rw [isExponentMark, Bool.or_eq_false_iff]
  constructor <;> exact beq_false_of_ne fun same => absurd (same ▸ digit) (by decide)

/-- **A numeral with places enough is read as it stands.** -/
theorem read?_numeral {whole places : List Char}
    (digits : ∀ c ∈ whole ++ places, isAsciiDigit c = true) (nonempty : whole ≠ [])
    (within : places.length ≤ 28) (fits : ofDigits 0 (whole ++ places) < twoTo 96) :
    ∃ d, read? (String.ofList (whole ++ '.' :: places)) = some d
      ∧ d.mantissa = ofDigits 0 (whole ++ places) ∧ d.scale = places.length := by
  have front := fun c mem => digits c (List.mem_append_left places mem)
  have back := fun c mem => digits c (List.mem_append_right whole mem)
  have both : ofDigits 0 (whole ++ places) = ofDigits (ofDigits 0 whole) places :=
    List.foldl_append
  have mantissa : Reading.empty.finish? (whole ++ '.' :: places)
      = some (ofDigits 0 (whole ++ places), places.length) := by
    have first : ofDigits 0 whole < twoTo 96 :=
      (Reading.le_ofDigits _ places).trans_lt (both ▸ fits)
    have point (n : ℕ) : Reading.finish? ⟨n, 0, false, true⟩ ('.' :: places)
        = Reading.finish? ⟨n, 0, true, true⟩ places := rfl
    rw [Reading.empty, Reading.finish?_whole front nonempty first, point,
      Reading.finish?_places back (by omega) (both ▸ fits), both, Nat.zero_add]
  have noMark : ∀ c ∈ whole ++ '.' :: places, (!isExponentMark c) = true := by
    intro c mem
    rcases List.mem_append.1 mem with mem | mem
    · rw [isExponentMark_of_digit (front c mem), Bool.not_false]
    · rcases List.mem_cons.1 mem with rfl | mem
      · rfl
      · rw [isExponentMark_of_digit (back c mem), Bool.not_false]
  obtain ⟨c, cs, list⟩ := List.exists_cons_of_ne_nil nonempty
  have unsigned : splitSign (whole ++ '.' :: places) = (false, whole ++ '.' :: places) := by
    rw [list, List.cons_append]
    exact splitSign_of_digit (front c (list ▸ List.mem_cons_self)) _
  have base : (whole ++ '.' :: places).takeWhile (!isExponentMark ·) = whole ++ '.' :: places :=
    List.takeWhile_eq_self_iff.2 noMark
  have exponent : (whole ++ '.' :: places).dropWhile (!isExponentMark ·) = [] :=
    List.dropWhile_eq_nil_iff.2 noMark
  refine ⟨⟨ofDigits 0 (whole ++ places), places.length, by simpa using fits, within⟩, ?_, rfl, rfl⟩
  rw [read?, String.toList_ofList, base, exponent]
  dsimp only
  rw [readPlain?, unsigned]
  dsimp only
  rw [mantissa]
  dsimp only [Option.bind_some]
  rw [ofSigned?, ofParts?, if_neg Bool.false_ne_true, dif_pos ⟨by simpa using fits, within⟩]

end TypedSql.Decimal

namespace TypedSql

open Decimal

/-- **Decimals as the project defines them are decimals as documented.** -/
theorem standardDecimals_documented : standardDecimals.Documented where
  mantissa_lt d := d.mantissa_lt
  mantissa_of_ofParts? made := by
    simp only [ofParts?] at made
    split at made <;> cases made
    rfl
  scale_of_ofParts? made := by
    simp only [ofParts?] at made
    split at made <;> cases made
    rfl
  exists_ofParts? bits places := ⟨_, dif_pos ⟨bits, places⟩⟩
  value_ofInt64 n := by
    simp [DecimalLibrary.value, ofInt64, ofUnits]
  scale_roundTo_le := scale_roundTo_le
  nearest_roundTo := isNearest_roundTo
  zeros_of_rescale {d places} le within := by
    have filled : d.rescale places = d.fill (places - d.scale) := dif_neg (not_lt.mpr le)
    dsimp only at le ⊢
    rw [filled]
    exact exists_zeros_of_fill d (by omega)
  value_of_read? digits nonempty _ within fits := by
    obtain ⟨d, read, mantissa, scale⟩ := read?_numeral digits nonempty within fits
    refine ⟨d, read, ?_⟩
    rw [value_eq, mantissa, scale, Int.cast_natCast]

end TypedSql
