import TypedSql.Proofs.Compound.Reader

/-!
# The words of compound queries

**Theorem (`segments_branch`).** A reader who splits the words of a compound query at the set
operators finds its queries, each with the ending behind its body. The ending of the whole is found
behind that of the last query.

**Theorem (`Compound.inOrder_endingWords`).** The clauses of the whole are in the order that SQL
wants.
-/

namespace TypedSql

open Lexeme

variable {ls ms : List Lexeme}

/-! ## The words of queries -/

variable {d : Dialect}

/-- The words of SELECT up to ORDER BY, LIMIT and OFFSET. -/
def Select.bodyWords (d : Dialect) (q : Select) : List Lexeme := words d (q.body.pieces [])

def Select.endingWords (d : Dialect) (q : Select) : List Lexeme := words d (q.ending [])

def Compound.endingWords (d : Dialect) (q : Compound) : List Lexeme := words d q.ending

/-- The words of the branches and of the ending of the whole. -/
def Compound.wordsFrom (d : Dialect) (q : Compound) (branches : List Branch) : List Lexeme :=
  words d (branchPieces [] branches ++ q.ending)

/-- The query says nothing about the order and the number of its rows. -/
def Select.isBare (q : Select) : Bool := q.orderBy.isEmpty && q.limit.isNone && q.offset.isNone

def SetOperator.words (op : SetOperator) : List Lexeme :=
  lexemes '"' (" " ++ op.sql ++ " ").toList

theorem isBody_append (h : isBody ls = true) (ms : List Lexeme) : isBody (ls ++ ms) = true := by
  unfold isBody at h
  split at h
  · exact h
  · cases h

/-- A set operator is recognised in front of a query. -/
theorem SetOperator.words_eq (op : SetOperator) :
    ∃ l more, op.words = l :: more ∧ l.isSetWord = true ∧ Calm isSetWord more
      ∧ ∀ ls, isBody ls = true → setOperator? l (more ++ ls) = some (op, ls) := by
  cases op with
  | union =>
    refine ⟨.word "UNION", [], by decide, by decide, .nil, fun ls h => ?_⟩
    unfold isBody at h
    split at h
    · next w rest =>
      -- What follows UNION is SELECT, hence not ALL.
      have other : Text.sameName "ALL" w = false := by
        refine Bool.eq_false_iff.2 fun all => ?_
        rw [Text.sameName_iff] at all h
        exact absurd (h.trans all.symm) (by decide)
      simp [setOperator?, other, Text.sameName_refl]
    · cases h
  | unionAll =>
    exact ⟨.word "UNION", [.word "ALL"], by decide, by decide,
      ⟨fun _ => rfl, fun _ => rfl, by decide⟩, fun _ _ => rfl⟩
  | intersect => exact ⟨.word "INTERSECT", [], by decide, by decide, .nil, fun _ _ => rfl⟩
  | except => exact ⟨.word "EXCEPT", [], by decide, by decide, .nil, fun _ _ => rfl⟩

theorem branchLeaves_cons (b : Branch) (rest : List Branch) :
    branchLeaves (b :: rest) = b.query.leaves ++ branchLeaves rest := by
  cases b
  rfl

/-! ## Endings -/

/-- An ending is nothing or begins with one of three texts. -/
theorem ending_cases (pss : List (List Piece)) (l o : Option Placeholder) :
    (pss = [] ∧ l = none ∧ o = none)
      ∨ ∃ s ∈ [" ORDER BY ", " LIMIT ", " LIMIT -1 OFFSET "], ∃ ps,
        clausePieces " ORDER BY " pss ++ limitPieces l o = .text s :: ps := by
  cases pss with
  | cons ps pss => exact .inr ⟨" ORDER BY ", by decide, _, rfl⟩
  | nil =>
    rcases l with _ | l <;> rcases o with _ | o
    · exact .inl ⟨rfl, rfl, rfl⟩
    · exact .inr ⟨" LIMIT -1 OFFSET ", by decide, _, rfl⟩
    · exact .inr ⟨" LIMIT ", by decide, _, rfl⟩
    · exact .inr ⟨" LIMIT ", by decide, _, rfl⟩

section

variable (hd : d.Readable)

include hd

/-- The words of an ending are none or begin with a clause word. -/
theorem begun_ending (pss : List (List Piece)) (l o : Option Placeholder) :
    Begun isClauseWord (words d (clausePieces " ORDER BY " pss ++ limitPieces l o))
      ∧ (words d (clausePieces " ORDER BY " pss ++ limitPieces l o) = []
        → pss = [] ∧ l = none ∧ o = none) := by
  have texts : ∀ s ∈ [" ORDER BY ", " LIMIT ", " LIMIT -1 OFFSET "],
      Quiet s ∧ endsOff s = true ∧ (lexemes '"' s.toList).head?.any isClauseWord = true := by
    decide
  rcases ending_cases pss l o with ⟨rfl, rfl, rfl⟩ | ⟨s, hs, ps, row⟩
  · refine ⟨fun l none => ?_, fun _ => ⟨rfl, rfl, rfl⟩⟩
    cases none
  · obtain ⟨quiet, ends, clause⟩ := texts s hs
    obtain ⟨l, first, stop⟩ := (Option.any_eq_true ..).1 clause
    obtain ⟨ls, keyword⟩ := List.head?_eq_some_iff.1 first
    rw [row, words_cons_text hd quiet ends, keyword]
    refine ⟨fun l' first => ?_, fun none => ?_⟩
    · cases first
      exact stop
    · cases none

theorem Select.begun_endingWords (q : Select) : Begun isClauseWord (q.endingWords d) :=
  (begun_ending hd _ q.limit q.offset).1

theorem Select.endingWords_eq_nil_iff (q : Select) :
    q.endingWords d = [] ↔ q.isBare = true := by
  have ending := (begun_ending hd (sortPieces [.ofSource q.source] q.orderBy) q.limit q.offset).2
  obtain ⟨source, distinct, items, filter, groupBy, having, orderBy, limit, offset, errors⟩ := q
  simp only [Select.isBare, Bool.and_eq_true, List.isEmpty_iff, Option.isNone_iff_eq_none]
  constructor
  · intro none
    obtain ⟨order, rest⟩ := ending none
    refine ⟨⟨?_, rest.1⟩, rest.2⟩
    rcases orderBy with _ | ⟨⟨e, sort⟩, terms⟩
    · rfl
    · cases order
  · rintro ⟨⟨rfl, rfl⟩, rfl⟩
    rfl

theorem places_text {s : String} (h : isPlain isSetWord s = true) (he : endsOff s = true)
    (ps : List Piece) :
    places (words d (.text s :: ps)) = places (lexemes '"' s.toList) ++ places (words d ps) := by
  obtain ⟨quiet, calm⟩ := quiet_of_isPlain h
  rw [words_cons_text hd quiet he, calm.places_append]

theorem places_clause {pss : List (List Piece)} (h : ∀ ps ∈ pss, SetOff d isEndWord ps) :
    places (words d (clausePieces " ORDER BY " pss)) ∈ [[], [0]] := by
  cases pss with
  | nil => exact List.mem_cons_self
  | cons ps pss =>
    have terms := (SetOff.separated hd (s := ", ") (by decide) h).calm.places_eq_nil
    rw [clausePieces, places_text hd (by decide) (by decide), terms]
    · decide
    · simp

theorem places_limit (l o : Option Placeholder) :
    places (words d (limitPieces l o)) ∈ [[], [1], [1, 2]] := by
  have slot : ∀ p : Placeholder, places (words d [.slot p]) = [] :=
    fun p => (SetOff.slot hd hd.spares p).calm.places_eq_nil
  cases l with
  | none =>
    cases o with
    | none => exact List.mem_cons_self
    | some o =>
      rw [limitPieces, places_text hd (by decide) (by decide), slot]
      decide
  | some l =>
    cases o with
    | none =>
      rw [limitPieces, places_text hd (by decide) (by decide), slot]
      decide
    | some o =>
      have counted : SetOff d isSetWord [.slot l] :=
        (SetOff.slot hd hd.spares l).mono isSetWord_of_not_isEndWord
      have skipped : Tail d isSetWord [.text " OFFSET ", .slot o] :=
        .cons_text hd (by decide) ((SetOff.slot hd hd.spares o).mono isSetWord_of_not_isEndWord)
      have both := counted.isolated.words_append skipped.loose
      rw [List.singleton_append] at both
      rw [limitPieces, places_text hd (by decide) (by decide), both, counted.calm.places_append,
        slot, places_text hd (by decide) (by decide), slot]
      decide

/-- The clauses of the whole are in order. -/
theorem Compound.inOrder_endingWords (q : Compound) : inOrder (q.endingWords d) = true := by
  have clause : Tail d isSetWord (clausePieces " ORDER BY " (positionPieces q.orderBy)) :=
    .clause hd (by decide) (by decide) fun ps hps =>
      (position_setOff hd q.orderBy ps hps).mono isSetWord_of_not_isEndWord
  have order := places_clause hd (position_setOff hd q.orderBy)
  have limit := places_limit hd q.limit q.offset
  have row := clause.isolated.words_append (Tail.limit hd q.limit q.offset).loose
  rw [Compound.endingWords, Compound.ending, row, inOrder, clause.calm.places_append]
  simp only [List.mem_cons, List.not_mem_nil, or_false] at order limit
  rcases order with order | order <;> rcases limit with limit | limit | limit <;>
    rw [order, limit] <;> decide

/-! ## Bodies -/

/-- A query begins with SELECT. -/
theorem Select.isBody_words (outer : List Scope) (q : Select) (ps : List Piece) :
    isBody (words d (q.pieces outer ++ ps)) = true := by
  obtain ⟨source, distinct, items, filter, groupBy, having, orderBy, limit, offset, errors⟩ := q
  simp only [Select.pieces_eq, List.append_assoc]
  rw [words_silent (sqlText_faults errors), List.cons_append,
    words_cons_text hd (by cases distinct <;> decide) (by cases distinct <;> decide)]
  exact isBody_append (by cases distinct <;> decide) _

theorem Query.isBody_words (scopes : List Scope) (q : Query) :
    isBody (words d (q.pieces scopes)) = true := by
  cases q with
  | select q =>
    have begins := q.isBody_words hd scopes []
    rwa [List.append_nil] at begins
  | compound q =>
    rw [Compound.pieces_ending, words_silent (sqlText_faults q.errors), List.append_assoc]
    exact q.first.isBody_words hd scopes _

theorem Select.isBody_bodyWords (q : Select) : isBody (q.bodyWords d) = true := by
  have begins := q.body.isBody_words hd [] []
  rwa [List.append_nil] at begins

theorem loose_branches (q : Compound) {branches : List Branch}
    (h : ∀ l ∈ branchLeaves branches, l.Plain) :
    Loose d (branchPieces [] branches ++ q.ending) :=
  (branch_tail hd [] branches h).loose.append (q.ending_tail hd).loose

/-- A query, and what is written behind it, word by word. -/
theorem words_query {q : Select} (h : ∀ l ∈ q.leaves, l.Plain) {ps : List Piece}
    (hp : Loose d ps) :
    words d (q.pieces [] ++ ps) = q.bodyWords d ++ (q.endingWords d ++ words d ps) := by
  obtain ⟨body, ending⟩ := q.divided hd [] h
  rw [Select.pieces_body, List.append_assoc, body.isolated.words_append (ending.loose.append hp),
    ending.isolated.words_append hp]
  rfl

theorem words_branch (q : Compound) (b : Branch) {rest : List Branch}
    (h : ∀ l ∈ branchLeaves (b :: rest), l.Plain) :
    q.wordsFrom d (b :: rest)
      = b.operator.words
        ++ (b.query.bodyWords d ++ (b.query.endingWords d ++ q.wordsFrom d rest)) := by
  rw [branchLeaves_cons, List.forall_mem_append] at h
  have row : branchPieces [] (b :: rest) ++ q.ending
      = .text (" " ++ b.operator.sql ++ " ")
        :: (b.query.pieces [] ++ (branchPieces [] rest ++ q.ending)) := by
    cases b
    simp only [branchPieces, List.cons_append, List.append_assoc]
  rw [Compound.wordsFrom, row,
    words_cons_text hd (quiet_setOperator _) (by cases b.operator <;> decide),
    words_query hd h.1 (loose_branches hd q h.2)]
  rfl

/-- The segments of the branches. The first one is what is left to the query in front. -/
theorem segments_branch (q : Compound) (b : Branch) {rest : List Branch}
    (h : ∀ l ∈ branchLeaves (b :: rest), l.Plain) :
    ∃ l more,
      segments isSetWord 0 (q.wordsFrom d (b :: rest))
        = ([], (l, more ++ (b.query.bodyWords d ++ (b.query.endingWords d
            ++ (segments isSetWord 0 (q.wordsFrom d rest)).1)))
          :: (segments isSetWord 0 (q.wordsFrom d rest)).2)
      ∧ ∀ ls, isBody ls = true → setOperator? l (more ++ ls) = some (b.operator, ls) := by
  obtain ⟨l, more, row, stop, calm, operator⟩ := b.operator.words_eq
  refine ⟨l, more, ?_, operator⟩
  rw [words_branch hd q b h, row]
  rw [branchLeaves_cons, List.forall_mem_append] at h
  have divided := b.query.divided hd [] h.1
  have body : Calm isSetWord (b.query.bodyWords d) :=
    (divided.body.mono isSetWord_of_not_isEndWord).calm
  have ending : Calm isSetWord (b.query.endingWords d) := divided.ending.calm
  have level : l.depth 0 = 0 := by
    cases l with
    | word w => rfl
    | quoted n => rfl
    | sign c => cases stop
  rw [List.cons_append, segments, level, stop, calm.segments, body.segments, ending.segments]
  rfl

/-- What is left to the last query is the ending of the whole. -/
theorem segments_ending (q : Compound) :
    segments isSetWord 0 (q.wordsFrom d []) = (q.endingWords d, []) := by
  have whole := (q.ending_tail hd).calm.segments []
  rw [List.append_nil] at whole
  refine whole.trans ?_
  rw [segments, List.append_nil]
  rfl

theorem begun_segments (q : Compound) {branches : List Branch}
    (h : ∀ l ∈ branchLeaves branches, l.Plain) :
    Begun isClauseWord (segments isSetWord 0 (q.wordsFrom d branches)).1 := by
  cases branches with
  | nil =>
    rw [segments_ending hd]
    exact (begun_ending hd _ q.limit q.offset).1
  | cons b rest =>
    obtain ⟨l, more, row, -⟩ := segments_branch hd q b h
    rw [row]
    intro l none
    cases none

end

end TypedSql
