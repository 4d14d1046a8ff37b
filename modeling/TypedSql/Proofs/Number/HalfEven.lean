import Mathlib.Data.Rat.Floor
import Mathlib.Tactic.FieldSimp
import Mathlib.Tactic.Linarith

/-!
# Rounding to the nearest integer

`IsNearest` says what rounding is without saying how it is done: the integer is less than a half
away, or a half away and even. There is one such integer (`halfEven_eq_iff`), and it does not
decrease with the number (`halfEven_mono`); for quotients both sides are multiplied out
(`isNearest_div_iff`).
-/

namespace TypedSql

/-! ## Half to even -/

/-- The integer nearest to a number, half way between two of them the even one. -/
def halfEven (x : ℚ) : ℤ :=
  if Int.fract x < 1 / 2 ∨ Int.fract x = 1 / 2 ∧ Even ⌊x⌋ then ⌊x⌋ else ⌊x⌋ + 1

/-- The integer is less than a half away, or a half away and even. -/
def IsNearest (x : ℚ) (m : ℤ) : Prop := |x - m| < 1 / 2 ∨ |x - m| = 1 / 2 ∧ Even m

namespace IsNearest

variable {x y : ℚ} {m n : ℤ}

theorem le_half (h : IsNearest x m) : |x - m| ≤ 1 / 2 := h.elim le_of_lt fun tie => tie.1.le

theorem even_of_eq_half (h : IsNearest x m) (tie : |x - m| = 1 / 2) : Even m :=
  h.elim (fun close => absurd tie close.ne) And.right

theorem le_of_le (hx : IsNearest x m) (hy : IsNearest y n) (le : x ≤ y) : m ≤ n := by
  by_contra less
  have next : (n : ℚ) + 1 ≤ m := by exact_mod_cast Int.add_one_le_of_lt (not_le.mp less)
  have above := abs_le.mp hx.le_half
  have below := abs_le.mp hy.le_half
  -- Both numbers are the middle of two neighbours, which are not both even.
  have middle : x - m = -(1 / 2) := by linarith
  have other : y - n = 1 / 2 := by linarith
  have apart : m = n + 1 := by
    have : (m : ℚ) = n + 1 := by linarith
    exact_mod_cast this
  have evenM : Even m := hx.even_of_eq_half (by rw [middle]; norm_num)
  have evenN : Even n := hy.even_of_eq_half (by rw [other]; norm_num)
  rw [apart, Int.even_add_one] at evenM
  exact evenM evenN

theorem unique (hm : IsNearest x m) (hn : IsNearest x n) : m = n :=
  le_antisymm (hm.le_of_le hn le_rfl) (hn.le_of_le hm le_rfl)

theorem neg (h : IsNearest x m) : IsNearest (-x) (-m) := by
  have mirrored : |-x - ((-m : ℤ) : ℚ)| = |x - m| := by
    rw [Int.cast_neg, ← neg_add', abs_neg, sub_eq_add_neg]
  rw [IsNearest, mirrored, even_neg]
  exact h

end IsNearest

theorem isNearest_halfEven (x : ℚ) : IsNearest x (halfEven x) := by
  have pos := Int.fract_nonneg x
  have below : x - ⌊x⌋ = Int.fract x := Int.self_sub_floor x
  have above : x - ((⌊x⌋ + 1 : ℤ) : ℚ) = -(1 - Int.fract x) := by
    rw [Int.cast_add, Int.cast_one, ← below]
    ring
  unfold halfEven
  split_ifs with down
  · rwa [IsNearest, below, abs_of_nonneg pos]
  · have less := Int.fract_lt_one x
    rw [IsNearest, above, abs_neg, abs_of_nonneg (by linarith), Int.even_add_one]
    rcases lt_trichotomy (Int.fract x) (1 / 2) with lower | middle | upper
    · exact absurd (.inl lower) down
    · exact .inr ⟨by linarith, fun even => down (.inr ⟨middle, even⟩)⟩
    · exact .inl (by linarith)

theorem halfEven_eq_iff {x : ℚ} {m : ℤ} : halfEven x = m ↔ IsNearest x m :=
  ⟨fun h => h ▸ isNearest_halfEven x, (isNearest_halfEven x).unique⟩

theorem halfEven_intCast (m : ℤ) : halfEven m = m := by
  rw [halfEven_eq_iff]
  left
  norm_num

theorem halfEven_neg (x : ℚ) : halfEven (-x) = -halfEven x :=
  halfEven_eq_iff.mpr (isNearest_halfEven x).neg

theorem halfEven_mono {x y : ℚ} (h : x ≤ y) : halfEven x ≤ halfEven y :=
  (isNearest_halfEven x).le_of_le (isNearest_halfEven y) h

/-! ## Quotients -/

/-- The nearest integer to a quotient, with the denominator multiplied out. -/
theorem isNearest_div_iff {n m : ℤ} {d : ℕ} (pos : 0 < d) :
    IsNearest ((n : ℚ) / d) m ↔
      2 * (n - m * d).natAbs < d ∨ 2 * (n - m * d).natAbs = d ∧ Even m := by
  have denominator : (0 : ℚ) < d := by exact_mod_cast pos
  have distance : |(n : ℚ) / d - m| = ((n - m * d).natAbs : ℚ) / d := by
    rw [Nat.cast_natAbs, Int.cast_abs, div_sub' denominator.ne', abs_div, abs_of_pos denominator]
    push_cast
    rw [mul_comm (d : ℚ)]
  have less : ((n - m * d).natAbs : ℚ) / d < 1 / 2 ↔ 2 * (n - m * d).natAbs < d := by
    rw [div_lt_div_iff₀ denominator two_pos, one_mul, mul_comm]
    exact_mod_cast Iff.rfl
  have same : ((n - m * d).natAbs : ℚ) / d = 1 / 2 ↔ 2 * (n - m * d).natAbs = d := by
    rw [div_eq_div_iff denominator.ne' two_ne_zero, one_mul, mul_comm]
    exact_mod_cast Iff.rfl
  rw [IsNearest, distance, less, same]

end TypedSql
