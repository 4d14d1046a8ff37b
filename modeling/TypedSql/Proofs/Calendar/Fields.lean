import TypedSql.Library.Calendar
import TypedSql.Proofs.Calendar.FixedWidth
import TypedSql.Text.Blank

/-!
# Fields as they are written

**Theorem (`isDate_dateText`, `isClock_clockText`).** The fields of a date and of a time are written
as a parser of them takes them: each field is a numeral of its number with as many digits as the
format has room for, and the fraction is what is left of a second.

A parser of stored texts is handed the text without the blanks at its ends. What is written there
is a digit, a sign or a letter (`trim_of_visible`).
-/

namespace TypedSql

open Text Numeral

/-! ## Blanks -/

namespace Text

theorem dropBlanks_eq_self {cs : List Char} (h : ∀ c, cs.head? = some c → isBlank c = false) :
    dropBlanks cs = cs := by
  cases cs with
  | nil => rfl
  | cons c rest => rw [dropBlanks, List.dropWhile_cons, h c rfl, if_neg (by decide)]

theorem trimList_eq_self {cs : List Char} (front : ∀ c, cs.head? = some c → isBlank c = false)
    (back : ∀ c, cs.getLast? = some c → isBlank c = false) : trimList cs = cs := by
  rw [trimList, dropBlanks_eq_self front, dropBlanks_eq_self, List.reverse_reverse]
  intro c h
  exact back c (by rwa [List.head?_reverse] at h)

theorem isBlank_of_isAsciiDigit {c : Char} (h : isAsciiDigit c = true) : isBlank c = false := by
  rw [isAsciiDigit, Bool.and_eq_true, decide_eq_true_eq, decide_eq_true_eq, Char.le_def,
    Char.le_def, UInt32.le_iff_toNat_le, UInt32.le_iff_toNat_le] at h
  have digit : 48 ≤ c.toNat ∧ c.toNat ≤ 57 := h
  simp only [isBlank, Bool.or_eq_false_iff, Bool.and_eq_false_iff, decide_eq_false_iff_not,
    beq_eq_false_iff_ne]
  omega

end Text

namespace Calendar

/-! ## Numerals -/

theorem digitValue_digitChar {n : Nat} (h : n < 10) : digitValue n.digitChar = n := by
  have table : ∀ n : Fin 10, digitValue n.val.digitChar = n.val := by decide
  exact table ⟨n, h⟩

theorem ofDigits_append (acc : Nat) (ds es : List Char) :
    ofDigits acc (ds ++ es) = ofDigits (ofDigits acc ds) es := List.foldl_append

theorem ofDigits_toDigits (n : Nat) : ofDigits 0 (Nat.toDigits 10 n) = n := by
  induction n using Nat.strongRecOn with
  | ind n ih =>
    by_cases small : n < 10
    · rw [Nat.toDigits_of_lt_base small]
      simp [ofDigits, digitValue_digitChar small]
    · have last : n % 10 < 10 := Nat.mod_lt n (by decide)
      rw [Nat.toDigits_of_base_le (by decide) (Nat.le_of_not_lt small), ofDigits_append,
        ih (n / 10) (by omega)]
      simp only [ofDigits, List.foldl_cons, List.foldl_nil, digitValue_digitChar last]
      omega

theorem ofDigits_padded (w n : Nat) : ofDigits 0 (padded w n) = n := by
  have zeros : ∀ k, ofDigits 0 (List.replicate k '0') = 0 := by
    intro k
    induction k with
    | zero => rfl
    | succ k ih => exact ih
  rw [padded, ofDigits_append, zeros, ofDigits_toDigits]

theorem length_padded {w : Nat} (hw : 0 < w) {n : Nat} (hn : n < 10 ^ w) :
    (padded w n).length = w := by
  induction w, hw using Nat.le_induction generalizing n with
  | base => rw [padded_one (by rwa [Nat.pow_one] at hn), List.length_singleton]
  | succ w hw ih =>
    have front : n / 10 < 10 ^ w := by
      rw [Nat.pow_succ] at hn
      omega
    rw [padded_succ hw, List.length_append, ih front, List.length_singleton]

theorem padded_ne_nil (w n : Nat) : padded w n ≠ [] := by simp [padded, Nat.toDigits_ne_nil]

/-- The text does not go on with a digit. -/
def NoDigit (rest : List Char) : Prop := ∀ c, rest.head? = some c → isAsciiDigit c = false

theorem noDigit_nil : NoDigit [] := fun _ h => nomatch h

theorem noDigit_cons {c : Char} (h : isAsciiDigit c = false) (rest : List Char) :
    NoDigit (c :: rest) := by
  intro d hd
  cases hd
  exact h

/-- The digits in front of something else are all the digits in front. -/
theorem takeWhile_digits_append {ds rest : List Char} (digits : ∀ c ∈ ds, isAsciiDigit c = true)
    (stop : NoDigit rest) : (ds ++ rest).takeWhile isAsciiDigit = ds := by
  rw [List.takeWhile_append_of_pos digits]
  cases rest with
  | nil => rw [List.takeWhile_nil, List.append_nil]
  | cons c rest => rw [List.takeWhile_cons, stop c rfl, if_neg (by decide), List.append_nil]

/-! ## Numerals as they are parsed -/

section Numerals

variable {w n least most least' most' : Nat} {cs : List Char}

theorem isNumeral_padded (hw : 0 < w) (hn : n < 10 ^ w) : IsNumeral w w (padded w n) n where
  digits _ := isAsciiDigit_of_mem_padded
  least_le := Nat.le_of_eq (length_padded hw hn).symm
  le_most := Nat.le_of_eq (length_padded hw hn)
  value := ofDigits_padded w n

theorem IsNumeral.mono (h : IsNumeral least most cs n) (lower : least' ≤ least)
    (upper : most ≤ most') : IsNumeral least' most' cs n where
  digits := h.digits
  least_le := Nat.le_trans lower h.least_le
  le_most := Nat.le_trans h.le_most upper
  value := h.value

/-- Two digits are enough for every field but the year. -/
theorem isNumeral_two (lower : least ≤ 2) (hn : n < 100) : IsNumeral least 2 (padded 2 n) n :=
  (isNumeral_padded (by decide) hn).mono lower (Nat.le_refl 2)

/-- A year is written with four digits, or with a sign. -/
theorem isYear_yearText (y : Int) : IsYear (yearText y) y := by
  have long : ∀ n, IsNumeral 1 (padded 4 n).length (padded 4 n) n := fun n =>
    { digits := fun _ => isAsciiDigit_of_mem_padded
      least_le := List.length_pos_iff.2 (padded_ne_nil 4 n)
      le_most := Nat.le_refl _
      value := ofDigits_padded 4 n }
  unfold yearText
  split
  case isTrue unsigned =>
    have numeral : IsNumeral 4 4 (padded 4 y.toNat) y.toNat :=
      isNumeral_padded (by decide) (by omega)
    have year := IsYear.plain (numeral.mono (by decide) (Nat.le_refl 4))
    rwa [Int.toNat_of_nonneg unsigned.1] at year
  case isFalse signed =>
    by_cases negative : y < 0
    · have year := IsYear.minus (long y.natAbs)
      rw [if_pos negative]
      rwa [show -((y.natAbs : Nat) : Int) = y by omega] at year
    · have year := IsYear.plus (long y.natAbs)
      rw [if_neg negative]
      rwa [show ((y.natAbs : Nat) : Int) = y by omega] at year

theorem isFullYear_yearText {y : Int} (unsigned : 0 ≤ y ∧ y ≤ 9999) :
    IsFullYear (yearText y) y := by
  have numeral : IsNumeral 4 4 (padded 4 y.toNat) y.toNat :=
    isNumeral_padded (by decide) (by omega)
  have year := IsFullYear.mk numeral
  rwa [Int.toNat_of_nonneg unsigned.1, ← show yearText y = _ from if_pos unsigned] at year

/-- A fraction is written with as many groups of three digits as it takes. -/
theorem fractionText_groups {f : Nat} (pos : f ≠ 0) (lt : f < 1000000000) :
    ∃ k m, fractionText f = '.' :: padded (3 * k) m ∧ m % 1000 ≠ 0
      ∧ (k = 1 ∧ f = m * 1000000 ∨ k = 2 ∧ f = m * 1000 ∨ k = 3 ∧ f = m) := by
  unfold fractionText
  rw [if_neg pos]
  split
  · exact ⟨1, f / 1000000, rfl, by omega, by omega⟩
  · split
    · exact ⟨2, f / 1000, rfl, by omega, by omega⟩
    · exact ⟨3, f, rfl, by omega, by omega⟩

/-- What is left of a second is written in full. -/
theorem isFraction_fractionText {f : Nat} (lt : f < 1000000000) :
    IsFraction (fractionText f) f := by
  by_cases whole : f = 0
  · subst whole
    exact .none
  · obtain ⟨k, m, text, -, size⟩ := fractionText_groups whole lt
    have width : 0 < 3 * k ∧ m < 10 ^ (3 * k) ∧ 3 * k ≤ 9 ∧ m * tenTo (9 - 3 * k) = f := by
      rcases size with ⟨rfl, value⟩ | ⟨rfl, value⟩ | ⟨rfl, value⟩ <;>
        simp only [tenTo, Nat.reduceMul, Nat.reduceSub, Nat.reducePow, Nat.pow_eq] <;> omega
    obtain ⟨pos, bound, nine, value⟩ := width
    have fraction := IsFraction.some ((isNumeral_padded pos bound).mono pos nine)
    rw [length_padded pos bound, value] at fraction
    rwa [text]

/-- **A date is written as it is parsed.** -/
theorem isDate_dateText {year : List Char → Int → Prop} {least : Nat} (lower : least ≤ 2)
    {y : Int} (hy : year (yearText y) y) {m d : Nat} (hm : m < 100) (hd : d < 100) :
    IsDate year least (dateText y m d) y m d :=
  .mk hy (isNumeral_two lower hm) (isNumeral_two lower hd)

/-- **A time is written as it is parsed.** -/
theorem isClock_clockText {least : Nat} (lower : least ≤ 2) {h m s f : Nat} (hh : h < 100)
    (hm : m < 100) (hs : s < 100) (hf : f < 1000000000) :
    IsClock least (clockText h m s f) h m s f :=
  .mk (isNumeral_two lower hh) (isNumeral_two lower hm) (isNumeral_two lower hs)
    (isFraction_fractionText hf)

end Numerals

/-! ## Ends of texts -/

/-- The text begins with a character that is no blank. -/
def BeginsVisibly (cs : List Char) : Prop := ∃ c rest, cs = c :: rest ∧ isBlank c = false

/-- The text ends with a character that is no blank. -/
def EndsVisibly (cs : List Char) : Prop := ∃ front c, cs = front ++ [c] ∧ isBlank c = false

/-- Without blanks at its ends, a text is not trimmed. -/
theorem trim_of_visible {cs : List Char} (front : BeginsVisibly cs) (back : EndsVisibly cs) :
    trim (String.ofList cs) = String.ofList cs := by
  rw [trim, String.toList_ofList, trimList_eq_self]
  · intro c first
    obtain ⟨c', rest, rfl, visible⟩ := front
    cases first
    exact visible
  · intro c last
    obtain ⟨inner, c', rfl, visible⟩ := back
    rw [List.getLast?_concat] at last
    cases last
    exact visible

theorem EndsVisibly.append {cs : List Char} (h : EndsVisibly cs) (front : List Char) :
    EndsVisibly (front ++ cs) := by
  obtain ⟨inner, c, rfl, visible⟩ := h
  exact ⟨front ++ inner, c, (List.append_assoc ..).symm, visible⟩

theorem EndsVisibly.cons {cs : List Char} (h : EndsVisibly cs) (c : Char) :
    EndsVisibly (c :: cs) :=
  h.append [c]

theorem padded_append_eq_cons (w n : Nat) (rest : List Char) :
    ∃ c cs, padded w n ++ rest = c :: cs ∧ isAsciiDigit c = true := by
  obtain ⟨c, cs, list⟩ := List.exists_cons_of_ne_nil (padded_ne_nil w n)
  exact ⟨c, cs ++ rest, by rw [list, List.cons_append],
    isAsciiDigit_of_mem_padded (list ▸ List.mem_cons_self)⟩

theorem beginsVisibly_padded_append (w n : Nat) (rest : List Char) :
    BeginsVisibly (padded w n ++ rest) := by
  obtain ⟨c, cs, list, digit⟩ := padded_append_eq_cons w n rest
  exact ⟨c, cs, list, isBlank_of_isAsciiDigit digit⟩

theorem endsVisibly_padded (w n : Nat) : EndsVisibly (padded w n) := by
  have nonempty := padded_ne_nil w n
  refine ⟨_, _, (List.dropLast_concat_getLast nonempty).symm, ?_⟩
  exact isBlank_of_isAsciiDigit (isAsciiDigit_of_mem_padded (List.getLast_mem nonempty))

/-- A date begins with its year, whatever follows. -/
theorem beginsVisibly_dateText_append (y : Int) (m d : Nat) (rest : List Char) :
    BeginsVisibly (dateText y m d ++ rest) := by
  unfold dateText yearText
  simp only [List.append_assoc]
  split
  · exact beginsVisibly_padded_append _ _ _
  · refine ⟨_, _, List.cons_append, ?_⟩
    split <;> decide

theorem endsVisibly_dateText (y : Int) (m d : Nat) : EndsVisibly (dateText y m d) :=
  ((endsVisibly_padded 2 d).cons '-').append _

theorem beginsVisibly_clockText (h m s f : Nat) : BeginsVisibly (clockText h m s f) := by
  unfold clockText
  simp only [List.append_assoc]
  exact beginsVisibly_padded_append _ _ _

/-- A time ends with a digit of its second or of the fraction. -/
theorem endsVisibly_clockText (h m s : Nat) {f : Nat} (lt : f < 1000000000) :
    EndsVisibly (clockText h m s f) := by
  by_cases whole : f = 0
  · rw [clockText, whole, fractionText, if_pos rfl, List.append_nil]
    exact ((endsVisibly_padded 2 s).cons ':').append _
  · obtain ⟨k, m', text, -, -⟩ := fractionText_groups whole lt
    rw [clockText, text]
    exact ((endsVisibly_padded (3 * k) m').cons '.').append _

end Calendar
end TypedSql
