import TypedSql.Proofs.Grammar.Token

/-!
# Nested queries among tokens

A nested query is taken as a whole, from the mark of its start to that of its end.

**Theorem (`Balanced.splitQuery_leave`).** The text of a nested query is found again, whatever
queries are nested in it.

Between the marks the text is split as anywhere else. What the characters in front of a mark make
does not depend on it, so that a row of pieces gives tokens of its own, up to the characters that
may go on behind it.
-/

namespace TypedSql

/-- The tokens up to the end of the nested query that is read, and those behind it; `depth` counts
the queries nested in it that have not ended yet. -/
def splitQuery : (depth : Nat) → List Token → Option (List Token × List Token)
  | _, [] => none
  | depth, .enter :: rest =>
    (splitQuery (depth + 1) rest).map fun (body, rest) => (.enter :: body, rest)
  | 0, .leave :: rest => some ([], rest)
  | depth + 1, .leave :: rest =>
    (splitQuery depth rest).map fun (body, rest) => (.leave :: body, rest)
  | depth, t :: rest => (splitQuery depth rest).map fun (body, rest) => (t :: body, rest)

/-! ## Tokens that are passed over -/

/-- Nested queries start and end in pairs among the tokens, which are passed over at any depth. -/
def Passed (ts : List Token) : Prop :=
  ∀ depth rest, splitQuery depth (ts ++ rest)
    = (splitQuery depth rest).map fun (body, rest) => (ts ++ body, rest)

theorem passed_nil : Passed [] := by
  intro depth rest
  simp

theorem Passed.append {ts us : List Token} (hts : Passed ts) (hus : Passed us) :
    Passed (ts ++ us) := by
  intro depth rest
  rw [List.append_assoc, hts, hus]
  simp [Function.comp_def]

theorem passed_word (s : String) : Passed [.word s] := fun _ _ => rfl

theorem passed_pendingToken (cs : List Char) : Passed (pendingToken cs) := by
  cases cs with
  | nil => exact passed_nil
  | cons c cs => exact passed_word _

theorem Passed.nested {ts : List Token} (h : Passed ts) : Passed (.enter :: (ts ++ [.leave])) := by
  intro depth rest
  simp [splitQuery, h _, Function.comp_def]

/-! ## Rows of pieces -/

/-- The row has tokens that are passed over, and leaves characters that may go on. -/
def Lexed (xs : List Symbol) : Prop :=
  ∀ pending, ∃ ts pending', Passed ts
    ∧ ∀ rest, lexFrom pending (xs ++ rest) = ts ++ lexFrom pending' rest

theorem lexed_nil : Lexed [] := fun pending => ⟨[], pending, passed_nil, fun _ => rfl⟩

theorem Lexed.append {xs ys : List Symbol} (hx : Lexed xs) (hy : Lexed ys) :
    Lexed (xs ++ ys) := by
  intro pending
  obtain ⟨ts, middle, passed, first⟩ := hx pending
  obtain ⟨us, last, passed', second⟩ := hy middle
  refine ⟨ts ++ us, last, passed.append passed', fun rest => ?_⟩
  rw [List.append_assoc, first, second, List.append_assoc]

theorem lexed_char (c : Char) : Lexed [.char c] := by
  intro pending
  by_cases blank : c = ' '
  · refine ⟨pendingToken pending, [], passed_pendingToken _, fun rest => ?_⟩
    simp [lexFrom, blank]
  · by_cases joined : pending.head?.any (joins · c) = true
    · refine ⟨[], c :: pending, passed_nil, fun rest => ?_⟩
      simp [lexFrom, blank, joined]
    · refine ⟨pendingToken pending, [c], passed_pendingToken _, fun rest => ?_⟩
      simp [lexFrom, blank, joined]

theorem lexed_atom {t : Token} (h : Passed [t]) : Lexed [.atom t] := by
  intro pending
  refine ⟨pendingToken pending ++ [t], [], (passed_pendingToken _).append h, fun rest => ?_⟩
  simp [lexFrom]

theorem lexed_chars (cs : List Char) : Lexed (cs.map .char) := by
  induction cs with
  | nil => exact lexed_nil
  | cons c cs ih => exact (lexed_char c).append ih

theorem lexed_level {ps : List Piece} (h : ps.all Piece.isLevel = true) : Lexed (symbols ps) := by
  induction ps with
  | nil => exact lexed_nil
  | cons p ps ih =>
      rw [List.all_cons, Bool.and_eq_true] at h
      rw [symbols_cons]
      refine Lexed.append ?_ (ih h.2)
      cases p with
      | text s => exact lexed_chars _
      | name n => exact lexed_atom fun _ _ => rfl
      | slot p => exact lexed_atom fun _ _ => rfl
      | fault e => exact lexed_nil
      | enter => cases h.1
      | leave => cases h.1

theorem symbols_nested (ps : List Piece) :
    symbols (Piece.nested ps) = .atom .enter :: (symbols ps ++ [.atom .leave]) := by
  simp [Piece.nested, symbols, Piece.symbols]

theorem Lexed.nested {ps : List Piece} (h : Lexed (symbols ps)) :
    Lexed (symbols (Piece.nested ps)) := by
  intro pending
  obtain ⟨ts, inner, passed, read⟩ := h []
  have body := (passed.append (passed_pendingToken inner)).nested
  refine ⟨_, [], (passed_pendingToken pending).append body, fun rest => ?_⟩
  rw [symbols_nested, List.cons_append, List.append_assoc, List.singleton_append, lexFrom, read,
    lexFrom]
  simp

theorem Balanced.lexed {ps : List Piece} (h : Balanced ps) : Lexed (symbols ps) := by
  induction h with
  | level hp => exact lexed_level hp
  | append _ _ ih₁ ih₂ =>
      rw [symbols_append]
      exact ih₁.append ih₂
  | nested _ ih => exact ih.nested

theorem Balanced.passed {ps : List Piece} (h : Balanced ps) : Passed (tokens ps) := by
  obtain ⟨ts, pending, passed, read⟩ := h.lexed []
  have all := read []
  rw [List.append_nil] at all
  rw [tokens, all]
  exact passed.append (passed_pendingToken pending)

theorem tokens_nested (ps : List Piece) :
    tokens (Piece.nested ps) = .enter :: (tokens ps ++ [.leave]) := by
  rw [tokens, symbols_nested, lexFrom, lexFrom_append (fresh_atom _ _)]
  rfl

/-- The body of a nested query is read up to its end. -/
theorem Balanced.splitQuery_leave {ps : List Piece} (h : Balanced ps) (rest : List Token) :
    splitQuery 0 (tokens ps ++ .leave :: rest) = some (tokens ps, rest) := by
  rw [h.passed]
  simp [splitQuery]

end TypedSql
