import TypedSql.Proofs.Query.Names
import TypedSql.Proofs.Schema.Delimited
import TypedSql.Storage.Literal

/-!
# Literals show where they end

A default is written without parentheses, and its text can be anything.

**Theorem (`StorageValue.delimited_literal`).** A literal in front of a space, a comma or a closing
parenthesis shows where it ends.

A text ends with the first quote that is not doubled. Every other literal begins with no quote and
has none of those characters in it: numbers and NULL are made of letters, digits, points and signs,
and bytes of digits and quotes behind an `X`.
-/

namespace TypedSql

/-! ## Numbers -/

/-- The character can stand in a number or a keyword. -/
def isNumeral (c : Char) : Bool := isNameRest c || c == '-' || c == '.'

def Numeric (s : String) : Prop := s.toList.all isNumeral = true

theorem numeric_iff {s : String} : Numeric s ↔ ∀ c ∈ s.toList, isNumeral c = true :=
  List.all_eq_true

theorem Numeric.append {s t : String} (hs : Numeric s) (ht : Numeric t) : Numeric (s ++ t) := by
  rw [Numeric, String.toList_append, List.all_append, hs, ht]
  rfl

theorem numeric_ofList {cs : List Char} (h : ∀ c ∈ cs, isNumeral c = true) :
    Numeric (String.ofList cs) := by
  rw [numeric_iff, String.toList_ofList]
  exact h

theorem isNumeral_of_isAsciiDigit {c : Char} (h : Text.isAsciiDigit c = true) :
    isNumeral c = true := by
  simp [isNumeral, isNameRest, h]

theorem numeric_toString (n : Nat) : Numeric (toString n) :=
  numeric_iff.2 fun _ hc => isNumeral_of_isAsciiDigit (isAsciiDigit_of_mem_toString hc)

theorem numeric_toString_int (n : Int) : Numeric (toString n) := by
  have minus : Numeric "-" := rfl
  cases n with
  | ofNat n => exact numeric_toString n
  | negSucc n => exact Numeric.append minus (numeric_toString (n + 1))

namespace RealText

theorem numeric_digitText (n : Nat) : Numeric (digitText n) := by
  have same : digitText n = toString n := by
    rw [digitText, Nat.toString_eq_ofList_toDigits]
  rw [same]
  exact numeric_toString n

theorem numeric_zeros (n : Nat) : Numeric (zeros n) := by
  refine numeric_ofList fun c hc => ?_
  rw [List.eq_of_mem_replicate hc]
  rfl

theorem numeric_positional (d : Digits) : Numeric (positional d) := by
  have digits := numeric_digitText d.digits
  have point : Numeric "." := rfl
  have zero : Numeric "0." := rfl
  unfold positional
  dsimp only
  split
  · exact digits.append (numeric_zeros _)
  · split
    · refine Numeric.append (Numeric.append ?_ point) ?_
      · exact numeric_ofList fun c hc => numeric_iff.1 digits c (List.mem_of_mem_take hc)
      · exact numeric_ofList fun c hc => numeric_iff.1 digits c (List.mem_of_mem_drop hc)
    · exact (zero.append (numeric_zeros _)).append digits

theorem numeric_scientific (d : Digits) : Numeric (scientific d) := by
  have digits := numeric_iff.1 (numeric_digitText d.digits)
  have one (c : Char) (h : isNumeral c = true) : Numeric c.toString :=
    numeric_ofList (List.forall_mem_singleton.2 h)
  have e : Numeric "e" := rfl
  have point : Numeric "." := rfl
  have exponent := numeric_toString_int d.lead
  unfold scientific
  dsimp only
  split
  · rfl
  · next c chars =>
    rw [chars, List.forall_mem_singleton] at digits
    exact ((one c digits).append e).append exponent
  · next c rest _ chars =>
    rw [chars, List.forall_mem_cons] at digits
    exact ((((one c digits.1).append point).append (numeric_ofList digits.2)).append e).append
      exponent

theorem numeric_signed (negative : Bool) {text : String} (h : Numeric text) :
    Numeric (signed negative text) := by
  have minus : Numeric "-" := rfl
  cases negative with
  | true => exact minus.append h
  | false => exact h

theorem numeric_sourceDigits (d : Digits) : Numeric (sourceDigits d) := by
  have fraction : Numeric ".0" := rfl
  unfold sourceDigits
  split
  · exact numeric_scientific d
  · split
    · exact (numeric_positional d).append fraction
    · exact numeric_positional d

theorem numeric_source (x : Float) : Numeric (source x) := by
  unfold source
  split
  · rfl
  · exact numeric_signed _ rfl
  · exact numeric_signed _ (numeric_sourceDigits _)

end RealText

namespace StorageValue

theorem numeric_realLiteral (x : Float) : Numeric (realLiteral x) := by
  unfold realLiteral
  split
  · rfl
  · split <;> rfl
  · exact RealText.numeric_source x

/-! ## Literals without spaces -/

/-- The character does not end a literal other than a text. -/
def isBare (c : Char) : Bool := !(c == ' ' || c == ',' || c == ')')

/-- The text cannot be mistaken for a literal text, and has no character behind a literal in it. -/
structure Bare (cs : List Char) : Prop where
  unquoted : cs.head? ≠ some '\''
  all : ∀ c ∈ cs, isBare c = true

theorem bare_of_numeric {s : String} (h : Numeric s) : Bare s.toList where
  unquoted first := by
    have quote := numeric_iff.1 h '\'' (List.mem_of_mem_head? first)
    cases quote
  all c hc := by
    have numeral := numeric_iff.1 h c hc
    by_contra ending
    simp only [isBare, Bool.not_eq_true, Bool.not_eq_false', Bool.or_eq_true, beq_iff_eq] at ending
    rcases ending with (rfl | rfl) | rfl <;> cases numeral

theorem isBare_upperHexDigit {n : Nat} (h : n < 16) : isBare (upperHexDigit n) = true := by
  have all : ∀ n < 16, isBare (upperHexDigit n) = true := by decide
  exact all n h

theorem isBare_of_mem_byteDigits {b : UInt8} {c : Char} (h : c ∈ byteDigits b) :
    isBare c = true := by
  have bound : b.toNat < 256 := b.toNat_lt
  have high : b.toNat / 16 < 16 := by omega
  have low : b.toNat % 16 < 16 := by omega
  rw [byteDigits, List.mem_cons, List.mem_singleton] at h
  rcases h with rfl | rfl
  · exact isBare_upperHexDigit high
  · exact isBare_upperHexDigit low

theorem bare_blob (bytes : List UInt8) : Bare (literal (.blob bytes)).toList := by
  have chars : (literal (.blob bytes)).toList
      = 'X' :: '\'' :: (bytes.flatMap byteDigits ++ ['\'']) := by
    simp [literal]
  rw [chars]
  refine ⟨nofun, List.forall_mem_cons.2 ⟨rfl, List.forall_mem_cons.2 ⟨rfl, ?_⟩⟩⟩
  refine List.forall_mem_append.2 ⟨fun c hc => ?_, List.forall_mem_singleton.2 rfl⟩
  obtain ⟨b, -, digit⟩ := List.mem_flatMap.1 hc
  exact isBare_of_mem_byteDigits digit

/-- A literal is that of a text, or bare. -/
theorem literal_text_or_bare (v : StorageValue) :
    (∃ s : String, v = .text s) ∨ Bare v.literal.toList := by
  cases v with
  | null => exact .inr (bare_of_numeric rfl)
  | integer n => exact .inr (bare_of_numeric (numeric_toString_int n.toInt))
  | real x => exact .inr (bare_of_numeric (numeric_realLiteral x))
  | text s => exact .inl ⟨s, rfl⟩
  | blob bytes => exact .inr (bare_blob bytes)

/-! ## Texts -/

theorem toList_literal_text (s : String) :
    (literal (.text s)).toList = '\'' :: (doubleQuotes s.toList ++ ['\'']) := by
  simp [literal]

theorem doubleQuotes_quote (cs : List Char) :
    doubleQuotes ('\'' :: cs) = '\'' :: '\'' :: doubleQuotes cs := rfl

theorem doubleQuotes_cons {c : Char} (h : c ≠ '\'') (cs : List Char) :
    doubleQuotes (c :: cs) = c :: doubleQuotes cs := by
  rw [doubleQuotes, if_neg h]

/-- A quote by itself is none of a text. -/
theorem quote_ne_doubleQuotes {r : List Char} (hr : r.head? ≠ some '\'') (c : Char)
    (cs rest : List Char) : '\'' :: r ≠ doubleQuotes (c :: cs) ++ rest := by
  intro h
  by_cases quote : c = '\''
  · rw [quote, doubleQuotes_quote, List.cons_append, List.cons_append] at h
    injection h with _ h
    exact hr (h ▸ rfl)
  · rw [doubleQuotes_cons quote, List.cons_append] at h
    injection h with first
    exact quote first.symm

/-- A quote by itself ends a text. -/
theorem doubleQuotes_append_inj {cs cs' r r' : List Char} (hr : r.head? ≠ some '\'')
    (hr' : r'.head? ≠ some '\'')
    (h : doubleQuotes cs ++ '\'' :: r = doubleQuotes cs' ++ '\'' :: r') : cs = cs' ∧ r = r' := by
  induction cs generalizing cs' with
  | nil =>
    cases cs' with
    | nil =>
      injection h with _ h
      exact ⟨rfl, h⟩
    | cons c' cs' => exact absurd h (quote_ne_doubleQuotes hr c' cs' _)
  | cons c cs ih =>
    cases cs' with
    | nil => exact absurd h.symm (quote_ne_doubleQuotes hr' c cs _)
    | cons c' cs' =>
      by_cases quote : c = '\'' <;> by_cases quote' : c' = '\''
      · subst quote quote'
        injection h with _ h
        injection h with _ h
        obtain ⟨rfl, rest⟩ := ih h
        exact ⟨rfl, rest⟩
      · subst quote
        rw [doubleQuotes_cons quote', doubleQuotes_quote] at h
        injection h with first
        exact absurd first.symm quote'
      · subst quote'
        rw [doubleQuotes_cons quote, doubleQuotes_quote] at h
        injection h with first
        exact absurd first quote
      · rw [doubleQuotes_cons quote, doubleQuotes_cons quote'] at h
        injection h with first h
        obtain ⟨rfl, rest⟩ := ih h
        exact ⟨first ▸ rfl, rest⟩

/-! ## Any literal -/

theorem Bare.quote_ne {cs r rest : List Char} (h : Bare cs) (hr : r.head? ≠ some '\'') :
    '\'' :: rest ≠ cs ++ r := by
  intro same
  cases cs with
  | nil =>
    rw [List.nil_append] at same
    exact hr (same ▸ rfl)
  | cons c cs =>
    injection same with first
    exact h.unquoted (first ▸ rfl)

/-- **A literal shows where it ends.** -/
theorem delimited_literal :
    Delimited (fun l : String => ∃ v : StorageValue, l = v.literal) (Begins [' ', ',', ')'])
      String.toList := by
  have ended {r : List Char} (hr : Begins [' ', ',', ')'] r) :
      ∀ c, r.head? = some c → isBare c = false := hr.stops rfl
  have unquoted {r : List Char} (hr : Begins [' ', ',', ')'] r) : r.head? ≠ some '\'' := by
    intro first
    cases ended hr _ first
  rintro _ _ ⟨v, rfl⟩ ⟨v', rfl⟩ r r' hr hr' h
  rcases v.literal_text_or_bare with ⟨s, rfl⟩ | bare <;>
    rcases v'.literal_text_or_bare with ⟨s', rfl⟩ | bare'
  · rw [toList_literal_text, toList_literal_text, List.cons_append, List.cons_append,
      List.append_assoc, List.append_assoc] at h
    injection h with _ h
    obtain ⟨same, rest⟩ := doubleQuotes_append_inj (unquoted hr) (unquoted hr') h
    exact ⟨congrArg (fun s => literal (.text s)) (String.toList_injective same), rest⟩
  · rw [toList_literal_text, List.cons_append] at h
    exact absurd h (bare'.quote_ne (unquoted hr'))
  · rw [toList_literal_text, List.cons_append] at h
    exact absurd h.symm (bare.quote_ne (unquoted hr))
  · obtain ⟨same, rest⟩ := append_inj_of_stops bare.all bare'.all (ended hr) (ended hr') h
    exact ⟨String.toList_injective same, rest⟩

end StorageValue
end TypedSql
