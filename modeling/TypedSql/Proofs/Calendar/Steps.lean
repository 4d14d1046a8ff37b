import Mathlib.Data.List.TakeWhile
import TypedSql.Calendar.Reading
import TypedSql.Proofs.Calendar.Days
import TypedSql.Proofs.Calendar.Fields

/-!
# The steps of reading

**Theorem (`date_append`, `time_append`, `strictInstant_of_fields`).** A step reads the fields that
the grammar of its format derives, and leaves what is behind them.

**Theorem (`takes_dateTime`, `head?_of_strictInstant`).** A local date-time that is read ends with a
digit, and a strict instant begins with one.

A step takes what it reads from the front, so that the statements are about a text with something
behind it. Where a step reads as many digits as there are, the text behind must not begin with one.
What a successful step tells about the text is kept apart from that (`Takes`): it says nothing of
the value, only of the characters taken, and goes through a sequence of steps by concatenation.
-/

namespace TypedSql.Calendar

open Text Numeral

/-! ## Steps one after the other -/

section Sequence

variable {α β : Type} {step : Step α} {next : α → Step β} {cs rest : List Char} {a : α}

theorem bind_eq (step : Step α) (next : α → Step β) (cs : List Char) :
    (step >>= next) cs = (step cs).bind fun p => next p.1 p.2 := rfl

theorem bind_of_eq_some (h : step cs = some (a, rest)) : (step >>= next) cs = next a rest := by
  rw [bind_eq, h, Option.bind_some]

theorem liftM_apply (o : Option α) (cs : List Char) :
    (liftM o : Step α) cs = o.map fun a => (a, cs) := by cases o <;> rfl

theorem whole?_eq_some_iff : whole? step cs = some a ↔ step cs = some (a, []) := by
  unfold whole?
  split
  · next read => simp [read]
  · next other =>
    simp only [reduceCtorEq, false_iff]
    exact other a

/-- With one value possible and nothing left, the step alone decides. -/
theorem whole?_of_eq_map {o : Option α} (h : step cs = o.map fun a => (a, [])) :
    whole? step cs = o := by
  rw [whole?, h]
  cases o <;> rfl

end Sequence

/-! ## Fields -/

section Fields

variable {least most n : Nat} {cs rest : List Char}

/-- The text goes on with neither a digit nor a point. -/
def NoFraction (rest : List Char) : Prop := NoDigit rest ∧ rest.head? ≠ some '.'

theorem noFraction_nil : NoFraction [] := ⟨noDigit_nil, nofun⟩

theorem noFraction_cons {c : Char} (digit : isAsciiDigit c = false) (point : c ≠ '.')
    (rest : List Char) : NoFraction (c :: rest) :=
  ⟨noDigit_cons digit rest, fun h => point (Option.some.inj h)⟩

theorem literal_cons (c : Char) (rest : List Char) : literal c (c :: rest) = some ((), rest) :=
  if_pos rfl

theorem oneOf_cons {p : Char → Bool} {c : Char} (h : p c = true) (rest : List Char) :
    oneOf p (c :: rest) = some (c, rest) := if_pos h

theorem blanks_cons {c : Char} (h : isBlank c = false) (rest : List Char) :
    blanks (c :: rest) = some ((), c :: rest) := by
  rw [blanks, dropBlanks, List.dropWhile_cons, h, if_neg (by decide)]

/-- A numeral is read to its end, where as many digits are asked for or no more follow. -/
theorem number_append (h : IsNumeral least most cs n) (stop : cs.length = most ∨ NoDigit rest) :
    number least most (cs ++ rest) = some (n, rest) := by
  have front : ((cs ++ rest).take most).takeWhile isAsciiDigit = cs := by
    rw [List.take_append, List.take_of_length_le h.le_most]
    refine takeWhile_digits_append h.digits ?_
    rcases stop with full | stop
    · rw [full, Nat.sub_self, List.take_zero]
      exact noDigit_nil
    · intro c first
      rw [List.head?_take] at first
      split at first
      · cases first
      · exact stop c first
  rw [number, front, if_neg (Nat.not_lt.2 h.least_le), List.drop_left, h.value]

/-- As many digits as there are allowed, whatever follows. -/
theorem number_full_append (h : IsNumeral most most cs n) (rest : List Char) :
    number most most (cs ++ rest) = some (n, rest) :=
  number_append h (.inl (Nat.le_antisymm h.le_most h.least_le))

/-- A numeral with a digit begins with one. -/
theorem IsNumeral.exists_cons (h : IsNumeral 1 most cs n) :
    ∃ c ds, cs = c :: ds ∧ isAsciiDigit c = true := by
  obtain ⟨c, ds, list⟩ := List.exists_cons_of_length_pos h.least_le
  exact ⟨c, ds, list, h.digits c (list ▸ List.mem_cons_self)⟩

theorem blanks_append_of_isNumeral (h : IsNumeral 1 most cs n) (rest : List Char) :
    blanks (cs ++ rest) = some ((), cs ++ rest) := by
  obtain ⟨c, ds, rfl, digit⟩ := h.exists_cons
  exact blanks_cons (isBlank_of_isAsciiDigit digit) (ds ++ rest)

theorem field_append (h : IsNumeral 1 2 cs n) (stop : NoDigit rest) :
    field (cs ++ rest) = some (n, rest) := by
  rw [field, bind_of_eq_some (blanks_append_of_isNumeral h rest), number_append h (.inr stop)]

/-- A year is read with its sign, where no digit follows. -/
theorem year_append {y : Int} (h : IsYear cs y) (stop : NoDigit rest) :
    year (cs ++ rest) = some (y, rest) := by
  have signed {ds : List Char} {n : Nat} (numeral : IsNumeral 1 ds.length ds n) :
      number 1 (ds ++ rest).length (ds ++ rest) = some (n, rest) :=
    number_append (numeral.mono (Nat.le_refl 1) (by simp)) (.inr stop)
  cases h with
  | plain numeral =>
    have short := number_append numeral (.inr stop)
    rw [year, bind_of_eq_some (blanks_append_of_isNumeral numeral rest)]
    obtain ⟨c, ds, rfl, digit⟩ := numeral.exists_cons
    -- A digit is no sign.
    split
    · next sign => cases sign; exact absurd digit (by decide)
    · next sign => cases sign; exact absurd digit (by decide)
    · rw [short, Option.map_some]
  | plus numeral =>
    rw [List.cons_append, year, bind_of_eq_some (blanks_cons (by decide) _)]
    simp only [signed numeral, Option.map_some]
  | minus numeral =>
    rw [List.cons_append, year, bind_of_eq_some (blanks_cons (by decide) _)]
    simp only [signed numeral, Option.map_some]

theorem fraction_append (h : IsFraction cs n) (stop : NoFraction rest) :
    fraction (cs ++ rest) = some (n, rest) := by
  cases h with
  | none =>
    rw [List.nil_append]
    unfold fraction
    split
    · exact absurd rfl stop.2
    · rfl
  | some numeral =>
    have digits := takeWhile_digits_append numeral.digits stop.1
    have nonempty := List.ne_nil_of_length_pos numeral.least_le
    rw [List.cons_append, fraction]
    simp only [digits, List.isEmpty_iff, nonempty, List.take_of_length_le numeral.le_most,
      numeral.value, List.drop_left, if_false]

end Fields

/-! ## Dates and times -/

section Formats

variable {ds cs rest : List Char} {y : Int} {mo d h m s n : Nat}

/-- **The fields of a date are read, and what is behind them is left.** -/
theorem date_append (written : IsDate IsYear 1 ds y mo d) (stop : NoDigit rest) :
    date (ds ++ rest) = (Date.of? y mo d).map fun a => (a, rest) := by
  obtain ⟨year, month, day⟩ := written
  have hyphen (cs : List Char) : NoDigit ('-' :: cs) := noDigit_cons (by decide) cs
  simp only [List.append_assoc, List.cons_append]
  rw [date, bind_of_eq_some (year_append year (hyphen _)), bind_of_eq_some (literal_cons _ _),
    bind_of_eq_some (field_append month (hyphen _)), bind_of_eq_some (literal_cons _ _),
    bind_of_eq_some (field_append day stop)]
  exact liftM_apply _ rest

/-- **The fields of a time are read, and what is behind them is left.** -/
theorem time_append (written : IsClock 1 cs h m s n) (stop : NoFraction rest) :
    time (cs ++ rest) = (timeOfFields? h m s n).map fun t => (t, rest) := by
  obtain @⟨hs, ms, ss, fs, h, m, s, n, hour, minute, second, within⟩ := written
  have colon (cs : List Char) : NoDigit (':' :: cs) := noDigit_cons (by decide) cs
  have behind : NoDigit (fs ++ rest) := by
    cases within with
    | none => exact stop.1
    | some => exact noDigit_cons (by decide) _
  simp only [List.append_assoc, List.cons_append]
  rw [time, bind_of_eq_some (field_append hour (colon _)), bind_of_eq_some (literal_cons _ _),
    bind_of_eq_some (field_append minute (colon _)), bind_of_eq_some (literal_cons _ _),
    bind_of_eq_some (field_append second behind), bind_of_eq_some (fraction_append within stop)]
  exact liftM_apply _ rest

/-- One blank in front of a time is passed over, and nothing more. -/
theorem blanks_space_of_isClock (written : IsClock 1 cs h m s n) :
    blanks (' ' :: cs) = some ((), cs) := by
  obtain ⟨hour, -, -, -⟩ := written
  have space (cs : List Char) : blanks (' ' :: cs) = blanks cs := rfl
  rw [space, List.append_assoc, List.append_assoc, blanks_append_of_isNumeral hour]

theorem dateTime_append (date_ : IsDate IsYear 1 ds y mo d) (time_ : IsClock 1 cs h m s n) :
    dateTime blanks (ds ++ ' ' :: cs)
      = (do
          let a ← Date.of? y mo d
          let t ← timeOfFields? h m s n
          pure (⟨a, t⟩ : DateTime) : Option DateTime).map fun v => (v, []) := by
  have read := time_append time_ noFraction_nil
  rw [List.append_nil] at read
  rw [dateTime, bind_eq, date_append date_ (noDigit_cons (by decide) cs)]
  cases Date.of? y mo d with
  | none => rfl
  | some a =>
    rw [Option.map_some, Option.bind_some, bind_of_eq_some (blanks_space_of_isClock time_), bind_eq,
      read]
    cases timeOfFields? h m s n <;> rfl

theorem offset_zulu : ∃ o : Offset, o.seconds = 0 ∧ offset ['Z'] = some (o, []) :=
  ⟨⟨0, by decide, by decide⟩, rfl, rfl⟩

/-- **The strict form is read where every field has all its digits.** -/
theorem strictInstant_of_fields (date_ : IsDate IsFullYear 2 ds y mo d)
    (time_ : IsClock 2 cs h m s n) :
    (whole? strictInstant (ds ++ 'T' :: cs ++ ['Z'])).map OffsetInstant.instant
      = (do
          let a ← Date.of? y mo d
          let t ← timeOfFields? h m s n
          pure (⟨a, t⟩ : DateTime) : Option DateTime).map Instant.mk := by
  obtain ⟨⟨year⟩, month, day⟩ := date_
  obtain ⟨hour, minute, second, within⟩ := time_
  obtain ⟨o, utc, zulu⟩ := offset_zulu
  have stop : NoFraction ['Z'] := noFraction_cons (by decide) (by decide) []
  simp only [List.append_assoc, List.cons_append]
  rw [whole?, strictInstant, bind_of_eq_some (number_full_append year _),
    bind_of_eq_some (literal_cons _ _), bind_of_eq_some (number_full_append month _),
    bind_of_eq_some (literal_cons _ _), bind_of_eq_some (number_full_append day _),
    bind_of_eq_some (oneOf_cons (by decide) _), bind_of_eq_some (number_full_append hour _),
    bind_of_eq_some (literal_cons _ _), bind_of_eq_some (number_full_append minute _),
    bind_of_eq_some (literal_cons _ _), bind_of_eq_some (number_full_append second _),
    bind_of_eq_some (fraction_append within stop), bind_of_eq_some zulu, bind_eq, liftM_apply]
  cases Date.of? _ mo d with
  | none => rfl
  | some a =>
    rw [Option.map_some, Option.bind_some, bind_eq, liftM_apply]
    cases timeOfFields? h m s n with
    | none => rfl
    | some t =>
      rw [Option.map_some, Option.bind_some, utc, Int.sub_zero, bind_eq,
        Instant.ofUnix?_unixSecond ⟨⟨a, t⟩⟩]
      rfl

end Formats

/-! ## What was taken -/

/-- What the step takes from the front has the property. -/
def Takes {α : Type} (step : Step α) (taken : List Char → Prop) : Prop :=
  ∀ cs a rest, step cs = some (a, rest) → ∃ front, cs = front ++ rest ∧ taken front

/-- Any characters, or none. -/
def Anything (_ : List Char) : Prop := True

/-- The last character is a digit. -/
def EndsInDigit (cs : List Char) : Prop := ∃ front c, cs = front ++ [c] ∧ isAsciiDigit c = true

theorem EndsInDigit.append {cs : List Char} (h : EndsInDigit cs) (front : List Char) :
    EndsInDigit (front ++ cs) := by
  obtain ⟨inner, c, rfl, digit⟩ := h
  exact ⟨front ++ inner, c, (List.append_assoc ..).symm, digit⟩

theorem endsInDigit_of_digits {cs : List Char} (digits : ∀ c ∈ cs, isAsciiDigit c = true)
    (nonempty : cs ≠ []) : EndsInDigit cs :=
  ⟨_, _, (List.dropLast_concat_getLast nonempty).symm, digits _ (List.getLast_mem nonempty)⟩

section Takes

variable {α β : Type} {step : Step α} {next : α → Step β} {p q r : List Char → Prop}

theorem Takes.mono (h : Takes step p) (weaker : ∀ cs, p cs → q cs) : Takes step q := by
  intro cs a rest read
  obtain ⟨front, split, taken⟩ := h cs a rest read
  exact ⟨front, split, weaker front taken⟩

theorem Takes.anything (h : Takes step p) : Takes step Anything := h.mono fun _ _ => trivial

/-- Two steps take what they take one behind the other. -/
theorem takes_bind (first : Takes step p) (second : ∀ a, Takes (next a) q)
    (both : ∀ cs ds, p cs → q ds → r (cs ++ ds)) : Takes (step >>= next) r := by
  intro cs b rest read
  rw [bind_eq, Option.bind_eq_some_iff] at read
  obtain ⟨⟨a, middle⟩, read, onward⟩ := read
  obtain ⟨front, rfl, before⟩ := first cs a middle read
  obtain ⟨back, rfl, behind⟩ := second a middle b rest onward
  exact ⟨front ++ back, (List.append_assoc ..).symm, both front back before behind⟩

theorem takes_bind_anything (first : Takes step p) (second : ∀ a, Takes (next a) Anything) :
    Takes (step >>= next) Anything :=
  takes_bind first second fun _ _ _ _ => trivial

/-- What the second step ends with is the end. -/
theorem takes_bind_of_ends (first : Takes step p) (second : ∀ a, Takes (next a) EndsInDigit) :
    Takes (step >>= next) EndsInDigit :=
  takes_bind first second fun front _ _ ends => ends.append front

theorem takes_liftM (o : Option α) : Takes (liftM o : Step α) (· = []) := by
  intro cs a rest read
  rw [liftM_apply, Option.map_eq_some_iff] at read
  obtain ⟨_, -, same⟩ := read
  cases same
  exact ⟨[], rfl, rfl⟩

theorem takes_pure (a : α) : Takes (pure a : Step α) (· = []) := takes_liftM (some a)

theorem takes_literal (c : Char) : Takes (literal c) Anything := by
  intro cs a rest read
  cases cs with
  | nil => cases read
  | cons d ds =>
    simp only [literal] at read
    split at read
    · cases read
      exact ⟨[d], rfl, trivial⟩
    · cases read

theorem takes_blanks : Takes blanks Anything := by
  intro cs a rest read
  cases read
  exact ⟨cs.takeWhile isBlank, (List.takeWhile_append_dropWhile ..).symm, trivial⟩

/-- A number is read from the digits in front. -/
theorem isNumeral_of_number {least most n : Nat} {cs rest : List Char}
    (read : number least most cs = some (n, rest)) :
    ∃ ds, cs = ds ++ rest ∧ IsNumeral least most ds n := by
  have inside : (cs.take most).takeWhile isAsciiDigit <+: cs :=
    (List.takeWhile_prefix _).trans (List.take_prefix _ _)
  have short : ((cs.take most).takeWhile isAsciiDigit).length ≤ most :=
    (List.takeWhile_prefix _).length_le.trans (List.length_take_le most cs)
  simp only [number] at read
  split at read
  · cases read
  · next enough =>
    cases read
    exact ⟨_, (List.prefix_iff_eq_append.1 inside).symm,
      { digits := fun _ => List.mem_takeWhile_imp
        least_le := Nat.le_of_not_lt enough
        le_most := short
        value := rfl }⟩

theorem takes_number {least most : Nat} (pos : 0 < least) :
    Takes (number least most) EndsInDigit := by
  intro cs n rest read
  obtain ⟨ds, split, numeral⟩ := isNumeral_of_number read
  exact ⟨ds, split, endsInDigit_of_digits numeral.digits
    (List.ne_nil_of_length_pos (Nat.lt_of_lt_of_le pos numeral.least_le))⟩

theorem takes_field : Takes field EndsInDigit :=
  takes_bind_of_ends takes_blanks fun _ => takes_number (by decide)

theorem takes_year : Takes year Anything := by
  have signed (sign : Char) (cs rest : List Char) (n : Nat)
      (read : number 1 cs.length cs = some (n, rest)) :
      ∃ front, sign :: cs = front ++ rest ∧ Anything front := by
    obtain ⟨front, split, -⟩ := takes_number (by decide) cs n rest read
    exact ⟨sign :: front, by rw [split, List.cons_append], trivial⟩
  refine takes_bind_anything takes_blanks fun _ cs y rest read => ?_
  split at read <;> obtain ⟨⟨n, left⟩, number, same⟩ := Option.map_eq_some_iff.1 read <;> cases same
  · exact signed '-' _ _ n number
  · exact signed '+' _ _ n number
  · exact (takes_number (by decide)).anything cs n rest number

/-- A fraction is nothing, or it ends with a digit. -/
theorem takes_fraction : Takes fraction fun cs => cs = [] ∨ EndsInDigit cs := by
  intro cs n rest read
  unfold fraction at read
  split at read
  · next digits =>
    dsimp only at read
    split at read
    · cases read
    · next some_ =>
      cases read
      have inside := List.takeWhile_prefix (l := digits) isAsciiDigit
      have ends := endsInDigit_of_digits (fun _ => List.mem_takeWhile_imp)
        (fun none => some_ (List.isEmpty_iff.2 none))
      exact ⟨'.' :: digits.takeWhile isAsciiDigit,
        congrArg ('.' :: ·) (List.prefix_iff_eq_append.1 inside).symm, .inr (ends.append ['.'])⟩
  · cases read
    exact ⟨[], rfl, .inl rfl⟩

theorem takes_date : Takes date Anything :=
  takes_bind_anything takes_year fun _ =>
  takes_bind_anything (takes_literal '-') fun _ =>
  takes_bind_anything takes_field fun _ =>
  takes_bind_anything (takes_literal '-') fun _ =>
  takes_bind_anything takes_field fun _ => (takes_liftM _).anything

/-- A time ends with a digit of its second or of the fraction. -/
theorem takes_time : Takes time EndsInDigit := by
  have last (h m s : Nat) : Takes (do
      let n ← fraction
      (timeOfFields? h m s n : Option Time) : Step Time) fun cs => cs = [] ∨ EndsInDigit cs :=
    takes_bind takes_fraction (fun _ => takes_liftM _) fun front none ends empty => by
      rwa [empty, List.append_nil]
  refine takes_bind_of_ends takes_field fun h => takes_bind_of_ends (takes_literal ':') fun _ =>
    takes_bind_of_ends takes_field fun m => takes_bind_of_ends (takes_literal ':') fun _ =>
    takes_bind takes_field (last h m) fun second fraction ends within => ?_
  rcases within with rfl | within
  · rwa [List.append_nil]
  · exact within.append second

/-- **A date-time ends with a digit.** -/
theorem takes_dateTime {between : Step Unit} (h : Takes between Anything) :
    Takes (dateTime between) EndsInDigit :=
  takes_bind_of_ends takes_date fun _ => takes_bind_of_ends h fun _ =>
    takes_bind takes_time (fun _ => takes_pure _) fun front none ends empty => by
      rwa [empty, List.append_nil]

/-- **A strict instant begins with a digit.** -/
theorem head?_of_strictInstant {cs rest : List Char} {v : OffsetInstant}
    (read : strictInstant cs = some (v, rest)) :
    ∃ c, cs.head? = some c ∧ isAsciiDigit c = true := by
  rw [strictInstant, bind_eq, Option.bind_eq_some_iff] at read
  obtain ⟨⟨year, left⟩, number, -⟩ := read
  obtain ⟨ds, rfl, numeral⟩ := isNumeral_of_number number
  obtain ⟨c, cs, rfl, digit⟩ := (numeral.mono (by decide) (Nat.le_refl 4)).exists_cons
  exact ⟨c, rfl, digit⟩

end Takes

end TypedSql.Calendar
