import TypedSql.Proofs.Calendar.Fields
import TypedSql.Proofs.Number.ScaledStorage
import TypedSql.Proofs.Schema.Literals
import TypedSql.Uuid

/-!
# Literals scanned from the front of a text

**Theorem (`StorageValue.scan_literal_append`).** A reader of SQL literals, given the literal of
NULL, of an integer, of a text or of bytes with anything behind it, takes just the literal and reads
the value it was written for. What stands behind must not begin with a quote or with a character of
a name, a digit included.

So a value written into a statement stays a value, whatever is in it: it neither ends early nor
takes anything in from behind.

The reader knows nothing of how literals are written. A text ends with the first quote that is not
followed by another one; its characters are followed one by one, since a quote at the end of the
text stands beside the one that closes it.
-/

namespace TypedSql.StorageValue

open Text Numeral

/-! ## The reader -/

/-- The text in front of the first quote by itself, with doubled quotes made single, and what stands
behind that quote. -/
def scanQuoted : List Char → Option (List Char × List Char)
  | [] => none
  | c :: rest =>
    if c = '\'' then
      match rest with
      | '\'' :: rest => (scanQuoted rest).map fun (cs, rest) => ('\'' :: cs, rest)
      | rest => some ([], rest)
    else (scanQuoted rest).map fun (cs, rest) => (c :: cs, rest)

/-- Pairs of hexadecimal digits up to a quote. -/
def scanBytes (cs : List Char) : Option (List UInt8 × List Char) :=
  match cs.dropWhile (· != '\'') with
  | [] => none
  | _ :: rest => (Uuid.hexBytes? (cs.takeWhile (· != '\''))).map fun bytes => (bytes, rest)

/-- As many digits as there are, with an optional sign, that no name goes on from. -/
def scanInteger (cs : List Char) : Option (Int64 × List Char) :=
  let (negative, body) := splitSign cs
  let (digits, rest) := spanDigits body
  if digits.isEmpty || rest.head?.any isNameRest then none
  else
    let n := ofDigits 0 digits
    (int64? (if negative then -(n : Int) else n)).map fun n => (n, rest)

/-- The word NULL, in any case. -/
def scanNull (cs : List Char) : Option (List Char) :=
  if (cs.takeWhile isNameRest).map asciiLower = "null".toList then some (cs.dropWhile isNameRest)
  else none

/-- The literal in front, and what stands behind it. -/
def scan : List Char → Option (StorageValue × List Char)
  | '\'' :: rest => (scanQuoted rest).map fun (cs, rest) => (.text (String.ofList cs), rest)
  | 'X' :: '\'' :: rest | 'x' :: '\'' :: rest =>
    (scanBytes rest).map fun (bytes, rest) => (.blob bytes, rest)
  | cs =>
    match scanInteger cs with
    | some (n, rest) => some (.integer n, rest)
    | none => (scanNull cs).map fun rest => (.null, rest)

variable {r : List Char}

/-- What is not taken is left. -/
theorem dropWhile_of_takeWhile {p : Char → Bool} {cs : List Char}
    (taken : (cs ++ r).takeWhile p = cs) : (cs ++ r).dropWhile p = r := by
  have whole := List.takeWhile_append_dropWhile (p := p) (l := cs ++ r)
  rw [taken] at whole
  exact List.append_cancel_left whole

/-! ## Texts -/

theorem scanQuoted_doubled (rest : List Char) :
    scanQuoted ('\'' :: '\'' :: rest)
      = (scanQuoted rest).map fun (cs, rest) => ('\'' :: cs, rest) := by
  rw [scanQuoted.eq_def]
  rfl

theorem scanQuoted_closed (unquoted : r.head? ≠ some '\'') :
    scanQuoted ('\'' :: r) = some ([], r) := by
  rw [scanQuoted.eq_def]
  dsimp only
  rw [if_pos rfl]
  split
  · exact absurd rfl unquoted
  · rfl

theorem scanQuoted_other {c : Char} (other : c ≠ '\'') (rest : List Char) :
    scanQuoted (c :: rest) = (scanQuoted rest).map fun (cs, rest) => (c :: cs, rest) := by
  rw [scanQuoted.eq_def]
  exact if_neg other

/-- The quote that closes a text is the first one by itself. -/
theorem scanQuoted_append (cs : List Char) (unquoted : r.head? ≠ some '\'') :
    scanQuoted (doubleQuotes cs ++ '\'' :: r) = some (cs, r) := by
  induction cs with
  | nil => exact scanQuoted_closed unquoted
  | cons c cs ih =>
    -- A quote of the text stands twice, and both are taken in one step.
    by_cases quote : c = '\''
    · subst quote
      rw [doubleQuotes_quote, List.cons_append, List.cons_append, scanQuoted_doubled, ih,
        Option.map_some]
    · rw [doubleQuotes_cons quote, List.cons_append, scanQuoted_other quote, ih, Option.map_some]

/-! ## Bytes -/

theorem hexValue?_upperHexDigit {n : Nat} (h : n < 16) : hexValue? (upperHexDigit n) = some n := by
  have all : ∀ n < 16, hexValue? (upperHexDigit n) = some n := by decide
  exact all n h

theorem upperHexDigit_ne_quote {n : Nat} (h : n < 16) : (upperHexDigit n != '\'') = true := by
  have all : ∀ n < 16, (upperHexDigit n != '\'') = true := by decide
  exact all n h

theorem hexBytes?_flatMap (bytes : List UInt8) :
    Uuid.hexBytes? (bytes.flatMap byteDigits) = some bytes := by
  induction bytes with
  | nil => rfl
  | cons b bytes ih =>
    have bound : b.toNat < 256 := b.toNat_lt
    have high : b.toNat / 16 < 16 := by omega
    have low : b.toNat % 16 < 16 := by omega
    have value : 16 * (b.toNat / 16) + b.toNat % 16 = b.toNat := by omega
    rw [List.flatMap_cons, byteDigits, List.cons_append, List.cons_append, List.nil_append,
      Uuid.hexBytes?, hexValue?_upperHexDigit high, hexValue?_upperHexDigit low, ih]
    simp only [bind, Option.bind, value, UInt8.ofNat_toNat]
    rfl

theorem ne_quote_of_mem_digits {bytes : List UInt8} :
    ∀ c ∈ bytes.flatMap byteDigits, (c != '\'') = true := by
  intro c hc
  obtain ⟨b, -, digit⟩ := List.mem_flatMap.1 hc
  have bound : b.toNat < 256 := b.toNat_lt
  rw [byteDigits, List.mem_cons, List.mem_singleton] at digit
  rcases digit with rfl | rfl
  · exact upperHexDigit_ne_quote (by omega)
  · exact upperHexDigit_ne_quote (by omega)

theorem scanBytes_append (bytes : List UInt8) (r : List Char) :
    scanBytes (bytes.flatMap byteDigits ++ '\'' :: r) = some (bytes, r) := by
  have front : (bytes.flatMap byteDigits ++ '\'' :: r).takeWhile (· != '\'')
      = bytes.flatMap byteDigits := by
    rw [List.takeWhile_append_of_pos ne_quote_of_mem_digits, List.takeWhile_cons_of_neg (by decide),
      List.append_nil]
  rw [scanBytes, front, dropWhile_of_takeWhile front]
  simp only [hexBytes?_flatMap, Option.map_some]

/-! ## Numbers -/

theorem noDigit_of_apart (apart : Apart r) : Calendar.NoDigit r := by
  intro c first
  have other := apart c first
  simp only [isNameRest, Bool.or_eq_false_iff] at other
  exact other.1.2

theorem isAsciiDigit_of_mem_toDigits {n : Nat} {c : Char} (h : c ∈ Nat.toDigits 10 n) :
    isAsciiDigit c = true := by
  rw [← Nat.toList_repr, ← Nat.toString_eq_repr] at h
  exact isAsciiDigit_of_mem_toString h

theorem exists_first_digit (n : Nat) :
    ∃ c cs, Nat.toDigits 10 n = c :: cs ∧ isAsciiDigit c = true := by
  obtain ⟨c, cs, digits⟩ := List.exists_cons_of_ne_nil (Nat.toDigits_ne_nil (b := 10) (n := n))
  exact ⟨c, cs, digits, isAsciiDigit_of_mem_toDigits (digits ▸ List.mem_cons_self)⟩

/-- All digits of a number are taken, and nothing else. -/
theorem spanDigits_append (n : Nat) (apart : Apart r) :
    spanDigits (Nat.toDigits 10 n ++ r) = (Nat.toDigits 10 n, r) := by
  have digits : ∀ c ∈ Nat.toDigits 10 n, isAsciiDigit c = true :=
    fun _ => isAsciiDigit_of_mem_toDigits
  have front := Calendar.takeWhile_digits_append digits (noDigit_of_apart apart)
  rw [spanDigits, front, dropWhile_of_takeWhile front]

/-- A number begins with a digit, which is no sign. -/
theorem splitSign_append (n : Nat) (r : List Char) :
    splitSign (Nat.toDigits 10 n ++ r) = (false, Nat.toDigits 10 n ++ r) := by
  obtain ⟨c, cs, digits, digit⟩ := exists_first_digit n
  rw [digits, List.cons_append]
  unfold splitSign
  split
  · next same =>
    cases same
    cases digit
  · next same =>
    cases same
    cases digit
  · rfl

/-- The digits of an integer behind its sign. -/
theorem toList_toString_int (z : Int) :
    (toString z).toList = (if z < 0 then ['-'] else []) ++ Nat.toDigits 10 z.natAbs := by
  have magnitude (n : Nat) : (toString n).toList = Nat.toDigits 10 n := by
    rw [Nat.toString_eq_repr, Nat.toList_repr]
  cases z with
  | ofNat n => exact magnitude n
  | negSucc n =>
    have text : toString (Int.negSucc n) = "-" ++ toString (n + 1) := rfl
    have minus : "-".toList = ['-'] := by decide
    rw [text, String.toList_append, magnitude, minus, if_pos (Int.negSucc_lt_zero n),
      Int.natAbs_negSucc]

/-- An integer begins with a minus or a digit. -/
theorem exists_first (z : Int) :
    ∃ c cs, (toString z).toList = c :: cs ∧ (c = '-' ∨ isAsciiDigit c = true) := by
  rw [toList_toString_int]
  by_cases negative : z < 0
  · rw [if_pos negative]
    exact ⟨'-', _, rfl, .inl rfl⟩
  · rw [if_neg negative, List.nil_append]
    obtain ⟨c, cs, digits, digit⟩ := exists_first_digit z.natAbs
    exact ⟨c, cs, digits, .inr digit⟩

theorem scanInteger_append {z : Int} {n : Int64} (fits : int64? z = some n) (apart : Apart r) :
    scanInteger ((toString z).toList ++ r) = some (n, r) := by
  have sign : splitSign ((toString z).toList ++ r)
      = (decide (z < 0), Nat.toDigits 10 z.natAbs ++ r) := by
    rw [toList_toString_int]
    by_cases negative : z < 0
    · rw [if_pos negative, decide_eq_true negative]
      rfl
    · rw [if_neg negative, decide_eq_false negative, List.nil_append, splitSign_append]
  have stop : r.head?.any isNameRest = false := by
    cases first : r.head? with
    | none => rfl
    | some c => exact apart c first
  have value : (if z < 0 then -(z.natAbs : Int) else z.natAbs) = z := by
    split <;> omega
  have digits : (Nat.toDigits 10 z.natAbs).isEmpty = false := by
    rw [List.isEmpty_eq_false_iff]
    exact Nat.toDigits_ne_nil
  simp only [scanInteger, sign, spanDigits_append _ apart, digits, stop, Bool.or_false,
    Bool.false_eq_true, if_false, Calendar.ofDigits_toDigits, decide_eq_true_eq, value, fits,
    Option.map_some]

/-! ## Literals -/

theorem scanNull_append (apart : Apart r) : scanNull ("NULL".toList ++ r) = some r := by
  have word : ∀ c ∈ "NULL".toList, isNameRest c = true := List.all_eq_true.1 rfl
  have front : ("NULL".toList ++ r).takeWhile isNameRest = "NULL".toList := by
    rw [List.takeWhile_append_of_pos word]
    cases r with
    | nil => rfl
    | cons c r => rw [List.takeWhile_cons_of_neg (by simp [apart c rfl]), List.append_nil]
  rw [scanNull, front, dropWhile_of_takeWhile front]
  exact if_pos rfl

theorem scan_of_numeral {c : Char} (other : c ≠ '\'' ∧ c ≠ 'X' ∧ c ≠ 'x') (cs : List Char) :
    scan (c :: cs) = match scanInteger (c :: cs) with
      | some (n, rest) => some (.integer n, rest)
      | none => (scanNull (c :: cs)).map fun rest => (.null, rest) := by
  unfold scan
  split <;> simp_all

theorem toList_literal_blob (bytes : List UInt8) :
    (literal (.blob bytes)).toList = 'X' :: '\'' :: (bytes.flatMap byteDigits ++ ['\'']) := by
  simp [literal]

theorem scan_null (apart : Apart r) : scan ("NULL".toList ++ r) = some (.null, r) := by
  have number : scanInteger ("NULL".toList ++ r) = none := rfl
  have word : "NULL".toList ++ r = 'N' :: ("ULL".toList ++ r) := rfl
  have null := scanNull_append apart
  rw [word] at number null ⊢
  rw [scan_of_numeral (by decide), number, null]
  rfl

theorem scan_integer (n : Int64) (apart : Apart r) :
    scan ((toString n.toInt).toList ++ r) = some (.integer n, r) := by
  have number := scanInteger_append (int64?_toInt n) apart
  obtain ⟨c, cs, chars, first⟩ := exists_first n.toInt
  have other : c ≠ '\'' ∧ c ≠ 'X' ∧ c ≠ 'x' := by
    rcases first with rfl | digit
    · decide
    · refine ⟨?_, ?_, ?_⟩ <;> rintro rfl <;> cases digit
  rw [chars, List.cons_append] at number ⊢
  rw [scan_of_numeral other, number]

/-- **A literal is scanned for what it is.** -/
theorem scan_literal_append (v : StorageValue) (stored : v.storageClass? ≠ some .real)
    (unquoted : r.head? ≠ some '\'') (apart : Apart r) :
    scan (v.literal.toList ++ r) = some (v, r) := by
  cases v with
  | null => exact scan_null apart
  | integer n => exact scan_integer n apart
  | real x => exact absurd rfl stored
  | text s =>
    rw [toList_literal_text, List.cons_append, List.append_assoc, List.singleton_append, scan,
      scanQuoted_append _ unquoted, Option.map_some]
    simp only [String.ofList_toList]
  | blob bytes =>
    rw [toList_literal_blob, List.cons_append, List.cons_append, List.append_assoc,
      List.singleton_append, scan, scanBytes_append, Option.map_some]

/-- Quotes at either end of a text and a quote later in the statement. -/
theorem scan_literal_append_of_quotes :
    scan ((StorageValue.text "'; DROP TABLE pets; --'").literal.toList ++ ", ('')".toList)
        = some (.text "'; DROP TABLE pets; --'", ", ('')".toList) :=
  scan_literal_append (.text "'; DROP TABLE pets; --'") (by decide) (by decide)
    (apart_cons (by decide) " ('')".toList)

/-- A quote behind a text would go on with it. -/
example : scan ((StorageValue.text "a").literal.toList ++ "'b'".toList)
    = some (.text "a'b", []) := rfl

end TypedSql.StorageValue
