import Mathlib.Algebra.Group.Nat.Defs
import Mathlib.Data.Nat.Init
import TypedSql.Calendar.Writing
import TypedSql.Text.Ascii

/-!
# Numerals of a fixed width

**Theorem (`padded_append_lt_iff`).** Texts that begin with numerals of one width are in the order
of the numbers, and in that of the rest where the numbers agree.

The order of texts is that of code points, from the front. Where a numeral is the beginning of a
longer one, the order hangs on what is written behind it: `Ending` says on which side of the digits
that is.
-/

namespace TypedSql.Calendar

/-! ## Digits -/

theorem digitChar_lt_iff {m n : Nat} (hm : m < 10) (hn : n < 10) :
    m.digitChar < n.digitChar ↔ m < n := by
  have table : ∀ m n : Fin 10, m.val.digitChar < n.val.digitChar ↔ m.val < n.val := by decide
  exact table ⟨m, hm⟩ ⟨n, hn⟩

theorem digitChar_inj {m n : Nat} (hm : m < 10) (hn : n < 10) :
    m.digitChar = n.digitChar ↔ m = n := by
  have table : ∀ m n : Fin 10, m.val.digitChar = n.val.digitChar ↔ m.val = n.val := by decide
  exact table ⟨m, hm⟩ ⟨n, hn⟩

theorem padded_one {n : Nat} (h : n < 10) : padded 1 n = [n.digitChar] := by
  rw [padded, Nat.toDigits_of_lt_base h]
  rfl

/-- The last digit of a numeral of at least two digits. -/
theorem padded_succ {w : Nat} (hw : 0 < w) (n : Nat) :
    padded (w + 1) n = padded w (n / 10) ++ [(n % 10).digitChar] := by
  obtain ⟨v, rfl⟩ := Nat.exists_eq_add_of_lt hw
  by_cases small : n < 10
  · have zero : n / 10 = 0 := Nat.div_eq_of_lt small
    rw [padded, padded, zero, Nat.mod_eq_of_lt small, Nat.toDigits_of_lt_base small,
      Nat.toDigits_of_lt_base (by decide)]
    simp [List.replicate_succ', Nat.digitChar]
  · have large : 10 ≤ n := Nat.le_of_not_lt small
    rw [padded, padded, Nat.toDigits_of_base_le (by decide) large]
    simp

/-- A numeral of two parts is the numerals of both. -/
theorem padded_add {i k : Nat} (hi : 0 < i) (hk : 0 < k) (n : Nat) :
    padded (i + k) n = padded i (n / 10 ^ k) ++ padded k (n % 10 ^ k) := by
  induction k, hk using Nat.le_induction generalizing n with
  | base => rw [padded_succ hi, Nat.pow_one, padded_one (Nat.mod_lt n (by decide))]
  | succ k hk ih =>
      have front : n / 10 / 10 ^ k = n / 10 ^ (k + 1) := by
        rw [Nat.div_div_eq_div_mul, Nat.pow_succ']
      have back : n % 10 ^ (k + 1) / 10 = n / 10 % 10 ^ k := by
        rw [Nat.pow_succ', Nat.mod_mul_right_div_self]
      have last : n % 10 ^ (k + 1) % 10 = n % 10 :=
        Nat.mod_mod_of_dvd n ⟨10 ^ k, Nat.pow_succ'⟩
      rw [← Nat.add_assoc, padded_succ (by omega), ih, padded_succ hk, front, back, last,
        List.append_assoc]

theorem isAsciiDigit_of_mem_padded {w n : Nat} {c : Char} (h : c ∈ padded w n) :
    Text.isAsciiDigit c = true := by
  rcases List.mem_append.1 h with zero | digit
  · rw [List.eq_of_mem_replicate zero]
    rfl
  · have shown := Nat.isDigit_of_mem_toDigits (by decide) (by decide) digit
    simpa [Char.isDigit, Text.isAsciiDigit, Char.le_def] using shown

/-! ## Order -/

/-- Numerals of one width, each with something behind it, are ordered by the numbers first. -/
theorem padded_append_lt_iff {w : Nat} (hw : 0 < w) {m n : Nat} (hm : m < 10 ^ w)
    (hn : n < 10 ^ w) (us vs : List Char) :
    padded w m ++ us < padded w n ++ vs ↔ m < n ∨ m = n ∧ us < vs := by
  induction w, hw using Nat.le_induction generalizing m n us vs with
  | base =>
      rw [Nat.pow_one] at hm hn
      rw [padded_one hm, padded_one hn, List.singleton_append, List.singleton_append,
        List.cons_lt_cons_iff, digitChar_lt_iff hm hn, digitChar_inj hm hn]
  | succ w hw ih =>
      rw [Nat.pow_succ] at hm hn
      have front : m / 10 < 10 ^ w ∧ n / 10 < 10 ^ w := by omega
      have last : m % 10 < 10 ∧ n % 10 < 10 := by omega
      rw [padded_succ hw, padded_succ hw, List.append_assoc, List.append_assoc,
        ih front.1 front.2, List.singleton_append, List.singleton_append, List.cons_lt_cons_iff,
        digitChar_lt_iff last.1 last.2, digitChar_inj last.1 last.2]
      by_cases rest : us < vs
      · simp only [rest, and_true]
        omega
      · simp only [rest, and_false, or_false]
        omega

/-! ## Endings -/

/-- What is written behind numerals: by itself, it comes before every digit if `first` holds, and
behind them otherwise. -/
structure Ending (us : List Char) (first : Prop) : Prop where
  before : ∀ c vs, c ≤ '9' → (us < c :: vs ↔ first)
  behind : ∀ c vs, c ≤ '9' → (c :: vs < us ↔ ¬ first)

theorem ending_nil : Ending [] True where
  before c vs _ := by simp
  behind c vs _ := by simp

theorem ending_singleton {z : Char} (h : '9' < z) : Ending [z] False where
  before c vs hc := by
    have less : c < z := Nat.lt_of_le_of_lt hc h
    simp [List.cons_lt_cons_iff, Char.lt_asymm less, (Char.ne_of_lt less).symm]
  behind c vs hc := by
    have less : c < z := Nat.lt_of_le_of_lt hc h
    simp [List.cons_lt_cons_iff, less]

variable {us : List Char} {first : Prop} {i k m n : Nat}

/-- A longer numeral goes on where the ending stands behind a shorter one. -/
theorem Ending.padded_append (ending : Ending us first) (w n : Nat) (vs : List Char) :
    (us < padded w n ++ vs ↔ first) ∧ (padded w n ++ vs < us ↔ ¬ first) := by
  have nonempty : padded w n ≠ [] := by simp [padded, Nat.toDigits_ne_nil]
  obtain ⟨c, cs, list⟩ := List.exists_cons_of_ne_nil nonempty
  have digit : Text.isAsciiDigit c = true :=
    isAsciiDigit_of_mem_padded (list ▸ List.mem_cons_self)
  rw [Text.isAsciiDigit, Bool.and_eq_true] at digit
  have le : c ≤ '9' := of_decide_eq_true digit.2
  rw [list]
  exact ⟨ending.before c _ le, ending.behind c _ le⟩

theorem padded_same_lt_iff (hi : 0 < i) (hm : m < 10 ^ i) (hn : n < 10 ^ i) (us : List Char) :
    padded i m ++ us < padded i n ++ us ↔ m < n := by
  rw [padded_append_lt_iff hi hm hn]
  exact or_iff_left fun same => List.lt_irrefl us same.2

/-- A shorter numeral is compared with the front of a longer one. -/
theorem Ending.shorter_lt_iff (ending : Ending us first) (hi : 0 < i) (hk : 0 < k)
    (hm : m < 10 ^ i) (hn : n < 10 ^ (i + k)) :
    padded i m ++ us < padded (i + k) n ++ us ↔ m < n / 10 ^ k ∨ m = n / 10 ^ k ∧ first := by
  have front : n / 10 ^ k < 10 ^ i := Nat.div_lt_of_lt_mul (by rwa [← Nat.pow_add, Nat.add_comm])
  rw [padded_add hi hk, List.append_assoc, padded_append_lt_iff hi hm front,
    (ending.padded_append _ _ _).1]

theorem Ending.longer_lt_iff (ending : Ending us first) (hi : 0 < i) (hk : 0 < k)
    (hm : m < 10 ^ i) (hn : n < 10 ^ (i + k)) :
    padded (i + k) n ++ us < padded i m ++ us ↔ n / 10 ^ k < m ∨ n / 10 ^ k = m ∧ ¬ first := by
  have front : n / 10 ^ k < 10 ^ i := Nat.div_lt_of_lt_mul (by rwa [← Nat.pow_add, Nat.add_comm])
  rw [padded_add hi hk, List.append_assoc, padded_append_lt_iff hi front hm,
    (ending.padded_append _ _ _).2]

end TypedSql.Calendar
