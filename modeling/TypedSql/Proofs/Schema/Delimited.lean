import TypedSql.Proofs.Compound.Lexeme
import TypedSql.Proofs.Query.Names
import TypedSql.Proofs.Render.Text

/-!
# Texts that show where they end

The texts of a family are delimited if, put in front of what may follow them, they can be told
from each other and from what follows. A text made of delimited parts is read from left to right,
without going back, in one way only.

* `append_inj_of_stops` — a word ends where its characters end.
* `append_inj_of_prefixFree` — of fixed words none may begin another.
* `Dialect.delimited_spell` — names, with or without quotes.
* `Delimited.flatMap` — rows of texts that all begin with the same character.
* `Delimited.separated` — lists with commas.
-/

namespace TypedSql

/-- The texts of members of `P` show where they end, if what follows is one of `ends`. -/
def Delimited {α : Type} (P : α → Prop) (ends : List Char → Prop) (text : α → List Char) : Prop :=
  ∀ ⦃a b : α⦄, P a → P b → ∀ ⦃r r' : List Char⦄, ends r → ends r' →
    text a ++ r = text b ++ r' → a = b ∧ r = r'

/-- The first character is one of those. -/
def Begins (cs r : List Char) : Prop := ∃ c ∈ cs, r.head? = some c

theorem begins_cons {c : Char} {cs : List Char} (h : c ∈ cs) (r : List Char) : Begins cs (c :: r) :=
  ⟨c, h, rfl⟩

theorem Begins.mono {cs cs' r : List Char} (h : Begins cs r) (sub : ∀ c ∈ cs, c ∈ cs') :
    Begins cs' r := by
  obtain ⟨c, hc, first⟩ := h
  exact ⟨c, sub c hc, first⟩

/-! ## Words -/

/-- A text of characters that satisfy `p` ends where such characters end. -/
theorem append_inj_of_stops {p : Char → Bool} {cs cs' r r' : List Char}
    (all : ∀ c ∈ cs, p c = true) (all' : ∀ c ∈ cs', p c = true)
    (stops : ∀ c, r.head? = some c → p c = false) (stops' : ∀ c, r'.head? = some c → p c = false)
    (h : cs ++ r = cs' ++ r') : cs = cs' ∧ r = r' := by
  have taken {cs r : List Char} (all : ∀ c ∈ cs, p c = true)
      (stops : ∀ c, r.head? = some c → p c = false) : (cs ++ r).takeWhile p = cs := by
    rw [List.takeWhile_append_of_pos all]
    cases r with
    | nil => exact List.append_nil cs
    | cons c r => rw [List.takeWhile_cons_of_neg (by simp [stops c rfl]), List.append_nil]
  have same : cs = cs' := (taken all stops).symm.trans (h ▸ taken all' stops')
  exact ⟨same, List.append_cancel_left (same ▸ h)⟩

theorem Begins.stops {p : Char → Bool} {cs r : List Char} (h : Begins cs r)
    (signs : cs.any p = false) : ∀ c, r.head? = some c → p c = false := by
  obtain ⟨c, hc, first⟩ := h
  intro c' first'
  rw [first] at first'
  cases first'
  exact Bool.eq_false_iff.2 (List.any_eq_false.1 signs c hc)

/-- A name that needs no quotes, or a word like it. -/
theorem delimited_word :
    Delimited (fun w : String => isValidName w = true) Apart String.toList := by
  intro a b ha hb r r' apart apart' h
  obtain ⟨same, rest⟩ := append_inj_of_stops (isNameRest_of_isValidName ha)
    (isNameRest_of_isValidName hb) apart apart' h
  exact ⟨String.toList_injective same, rest⟩

/-- A valid name begins like a name. -/
theorem head_toList_of_isValidName {n : String} (h : isValidName n = true) :
    ∃ c cs, n.toList = c :: cs ∧ isNameRest c = true := by
  have all := isNameRest_of_isValidName h
  cases chars : n.toList with
  | nil =>
    rw [isValidName, chars] at h
    cases h
  | cons c cs => exact ⟨c, cs, rfl, all c (chars ▸ List.mem_cons_self)⟩

namespace Dialect

variable {d : Dialect}

/-- The dialect quotes names, with a character that none of them has. -/
structure Delimits (d : Dialect) : Prop where
  quotes : d.Quotes
  sign : isNameRest d.quote = false

theorem toList_spell_of_reserved (quotes : d.Quotes) {n : String} (h : d.isReserved n = true) :
    (d.spell n).toList = d.quote :: (n.toList ++ [d.quote]) := by
  rw [quotes, quotedIf, if_pos h, String.toList_append, String.toList_append]
  simp

theorem toList_spell_of_free (quotes : d.Quotes) {n : String} (h : d.isReserved n = false) :
    (d.spell n).toList = n.toList := by
  rw [quotes, h]
  rfl

/-- A quoted name is not taken for one without quotes. -/
theorem quote_ne_name (sign : isNameRest d.quote = false) {n : String}
    (valid : isValidName n = true) {r r' : List Char} : d.quote :: r ≠ n.toList ++ r' := by
  obtain ⟨c, cs, chars, letter⟩ := head_toList_of_isValidName valid
  intro h
  rw [chars, List.cons_append] at h
  injection h with same
  rw [← same, sign] at letter
  cases letter

/-- **A name is read back, whichever names the dialect quotes.** -/
theorem delimited_spell (hd : d.Delimits) :
    Delimited (fun n => isValidName n = true) Apart fun n => (d.spell n).toList := by
  intro a b ha hb r r' apart apart' h
  dsimp only at h
  cases reserved : d.isReserved a <;> cases reserved' : d.isReserved b
  · rw [toList_spell_of_free hd.quotes reserved, toList_spell_of_free hd.quotes reserved'] at h
    exact delimited_word ha hb apart apart' h
  · rw [toList_spell_of_free hd.quotes reserved, toList_spell_of_reserved hd.quotes reserved'] at h
    exact absurd h.symm (quote_ne_name hd.sign ha)
  · rw [toList_spell_of_reserved hd.quotes reserved, toList_spell_of_free hd.quotes reserved'] at h
    exact absurd h (quote_ne_name hd.sign hb)
  · rw [toList_spell_of_reserved hd.quotes reserved, toList_spell_of_reserved hd.quotes reserved',
      List.cons_append, List.cons_append, List.append_assoc, List.append_assoc] at h
    injection h with _ h
    obtain ⟨same, rest⟩ := delimited_word ha hb (apart_cons hd.sign r) (apart_cons hd.sign r') h
    injection rest with _ rest
    exact ⟨same, rest⟩

end Dialect

/-! ## Families -/

variable {α : Type} {P : α → Prop} {text : α → List Char}

/-- Texts none of which begins another show where they end whatever follows. -/
theorem append_inj_of_prefixFree (free : ∀ a b, text a <+: text b → a = b) {a b : α}
    {r r' : List Char} (h : text a ++ r = text b ++ r') : a = b ∧ r = r' := by
  have same : a = b := by
    rcases List.prefix_or_prefix_of_prefix (List.prefix_append (text a) r)
      (h ▸ List.prefix_append (text b) r') with begins | begins
    · exact free a b begins
    · exact (free b a begins).symm
  exact ⟨same, List.append_cancel_left (same ▸ h)⟩

/-- What a row of texts and what follows it begin with. -/
theorem begins_flatMap {c : Char} {cs : List Char} (first : ∀ a, (text a).head? = some c)
    (as : List α) {r : List Char} (hr : Begins cs r) :
    Begins (c :: cs) (as.flatMap text ++ r) := by
  cases as with
  | nil => exact hr.mono fun _ => List.mem_cons_of_mem c
  | cons a as =>
    refine ⟨c, List.mem_cons_self, ?_⟩
    rw [List.flatMap_cons, List.append_assoc, List.head?_append, first]
    rfl

/-- A row of texts that all begin with `c`, up to something that does not. -/
theorem Delimited.flatMap {c : Char} {cs : List Char} (h : Delimited P (Begins (c :: cs)) text)
    (first : ∀ a, (text a).head? = some c) (other : c ∉ cs) :
    Delimited (fun as : List α => ∀ a ∈ as, P a) (Begins cs) fun as => as.flatMap text := by
  have ended (a : α) (as : List α) {r r' : List Char} (hr : Begins cs r) :
      r ≠ (a :: as).flatMap text ++ r' := by
    obtain ⟨c', hc', begins⟩ := hr
    intro same
    rw [same, List.flatMap_cons, List.append_assoc, List.head?_append, first] at begins
    cases begins
    exact other hc'
  intro as
  induction as with
  | nil =>
    intro bs _ _ r r' hr _ same
    cases bs with
    | nil => exact ⟨rfl, same⟩
    | cons b bs => exact absurd same (ended b bs hr)
  | cons a as ih =>
    intro bs ha hb r r' hr hr' same
    cases bs with
    | nil => exact absurd same.symm (ended a as hr')
    | cons b bs =>
      rw [List.forall_mem_cons] at ha hb
      dsimp only at same
      rw [List.flatMap_cons, List.flatMap_cons, List.append_assoc, List.append_assoc] at same
      obtain ⟨rfl, others⟩ :=
        h ha.1 hb.1 (begins_flatMap first as hr) (begins_flatMap first bs hr') same
      obtain ⟨rfl, rest⟩ := ih ha.2 hb.2 hr hr' others
      exact ⟨rfl, rest⟩

/-! ## Pieces -/

/-- The characters of the text of pieces. -/
def Piece.chars (d : Dialect) (ps : List Piece) : List Char := (Piece.sqlText d ps).toList

namespace Piece

variable {d : Dialect}

theorem chars_nil : chars d [] = [] := rfl

theorem chars_text (s : String) (ps : List Piece) :
    chars d (.text s :: ps) = s.toList ++ chars d ps := by
  rw [chars, sqlText_cons, String.toList_append]
  rfl

theorem chars_singleton (s : String) : chars d [.text s] = s.toList := by
  rw [chars_text, chars_nil, List.append_nil]

theorem chars_name (n : String) (ps : List Piece) :
    chars d (.name n :: ps) = (d.spell n).toList ++ chars d ps := by
  rw [chars, sqlText_cons, String.toList_append]
  rfl

theorem chars_append (ps qs : List Piece) : chars d (ps ++ qs) = chars d ps ++ chars d qs := by
  rw [chars, sqlText_append, String.toList_append]
  rfl

theorem chars_flatMap (f : α → List Piece) (as : List α) :
    chars d (as.flatMap f) = as.flatMap fun a => chars d (f a) := by
  induction as with
  | nil => rfl
  | cons a as ih => rw [List.flatMap_cons, chars_append, ih, List.flatMap_cons]

/-- A list is its first member and the others, each behind the separator. -/
theorem chars_separated (s : String) (ps : List Piece) (pss : List (List Piece)) :
    chars d (separated s (ps :: pss))
      = chars d ps ++ pss.flatMap fun ps => s.toList ++ chars d ps := by
  induction pss generalizing ps with
  | nil => exact (List.append_nil _).symm
  | cons qs pss ih =>
    rw [separated, chars_append, chars_text, ih, List.flatMap_cons, List.append_assoc]
    exact List.cons_ne_nil qs pss

end Piece

/-- A list with commas, up to something that is no comma. -/
theorem Delimited.separated {d : Dialect} {pieces : α → List Piece} {cs : List Char}
    (h : Delimited P (Begins (',' :: cs)) fun a => Piece.chars d (pieces a)) (other : ',' ∉ cs) :
    Delimited (fun as : List α => as ≠ [] ∧ ∀ a ∈ as, P a) (Begins cs)
      fun as => Piece.chars d (Piece.separated ", " (as.map pieces)) := by
  have comma : Delimited P (Begins (',' :: cs))
      fun a => ", ".toList ++ Piece.chars d (pieces a) := by
    intro a b ha hb r r' hr hr' same
    rw [List.append_assoc, List.append_assoc] at same
    exact h ha hb hr hr' (List.append_cancel_left same)
  have others := comma.flatMap (fun _ => rfl) other
  intro as bs ⟨nonempty, ha⟩ ⟨nonempty', hb⟩ r r' hr hr' same
  obtain ⟨a, as, rfl⟩ := List.exists_cons_of_ne_nil nonempty
  obtain ⟨b, bs, rfl⟩ := List.exists_cons_of_ne_nil nonempty'
  rw [List.forall_mem_cons] at ha hb
  simp only [List.map_cons, Piece.chars_separated, List.append_assoc, List.flatMap_map] at same
  obtain ⟨rfl, same'⟩ := h ha.1 hb.1 (begins_flatMap (fun _ => rfl) as hr)
    (begins_flatMap (fun _ => rfl) bs hr') same
  obtain ⟨rfl, rest⟩ := others ha.2 hb.2 hr hr' same'
  exact ⟨rfl, rest⟩

end TypedSql
