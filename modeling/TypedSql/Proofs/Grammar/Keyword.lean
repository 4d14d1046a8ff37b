import TypedSql.Proofs.Grammar.Token

/-!
# The texts of expressions as tokens

What is written in front of the operands of an expression, between them and behind them. Every such
text begins or ends with a space, a parenthesis or a comma where an operand is, so that the tokens
of the operand are those of its own text.
-/

namespace TypedSql

/-! ## Operators -/

/-- The word between the operands of a conjunction or disjunction. -/
def LogicalOp.word : LogicalOp → String
  | .and => "AND"
  | .or => "OR"

theorem lex_separator (op : LogicalOp) : lex op.separator = [.word op.word] := by
  cases op <;> rfl

theorem tokens_compare (op : CompareOp) (ps qs : List Piece) :
    tokens (ps ++ .text (" " ++ op.sql ++ " ") :: qs) = tokens ps ++ .word op.sql :: tokens qs := by
  cases op <;> exact tokens_infix rfl rfl ps qs

theorem tokens_binary (op : BinaryOp) (ps qs : List Piece) :
    tokens (ps ++ .text (" " ++ op.sql ++ " ") :: qs) = tokens ps ++ .word op.sql :: tokens qs := by
  cases op <;> exact tokens_infix rfl rfl ps qs

/-- Members behind the first stand behind the separator. -/
theorem tokens_separated {s : String} (hb : beginsApart s = true) (he : endsApart s = true)
    (ps : List Piece) (pss : List (List Piece)) :
    tokens (Piece.separated s (ps :: pss))
      = tokens ps ++ pss.flatMap fun qs => lex s ++ tokens qs := by
  induction pss generalizing ps with
  | nil => simp [Piece.separated]
  | cons qs pss ih =>
      rw [Piece.separated, tokens_infix hb he, ih, List.flatMap_cons, List.append_assoc]
      exact List.cons_ne_nil _ _

theorem tokens_operands (op : LogicalOp) (ps : List Piece) (pss : List (List Piece)) :
    tokens (Piece.separated op.separator (ps :: pss))
      = tokens ps ++ pss.flatMap fun qs => lex op.separator ++ tokens qs := by
  cases op <;> exact tokens_separated rfl rfl ps pss

theorem tokens_parenthesised (ps : List Piece) :
    tokens (Piece.parenthesised ps) = .word "(" :: (tokens ps ++ [.word ")"]) := by
  have closing : lex ")" = [.word ")"] := rfl
  have opening : lex "(" = [.word "("] := rfl
  rw [Piece.parenthesised, tokens_append_text rfl, tokens_cons_text rfl, ← lex, opening, closing]
  rfl

/-! ## Predicates and functions -/

/-- `NOT` where the predicate is negated. -/
def negation (negated : Bool) : List Token := if negated then [.word "NOT"] else []

theorem tokens_negatable (negated : Bool) {word : String} (h : endsApart word = true)
    (ps qs : List Piece) :
    tokens (ps ++ .text (negatable negated word) :: qs)
      = tokens ps ++ negation negated ++ (lex word ++ tokens qs) := by
  have merged : tokens (ps ++ .text (negatable negated word) :: qs)
      = tokens (ps ++ .text (if negated then " NOT " else " ") :: .text word :: qs) := by
    simp [tokens, symbols_append, symbols_cons, Piece.symbols, negatable]
  rw [merged, List.append_assoc, ← tokens_cons_text h]
  cases negated with
  | false => exact tokens_infix rfl rfl ps _
  | true => exact tokens_infix rfl rfl ps _

theorem tokens_isNull (negated : Bool) (ps : List Piece) :
    tokens (ps ++ [.text (if negated then " IS NOT NULL" else " IS NULL")])
      = tokens ps ++ .word "IS" :: negation negated ++ [.word "NULL"] := by
  rw [List.append_assoc]
  cases negated <;> exact tokens_append_text rfl ps []

theorem tokens_exists (negated : Bool) (ps : List Piece) :
    tokens (.text (if negated then "NOT EXISTS " else "EXISTS ") :: ps)
      = negation negated ++ .word "EXISTS" :: tokens ps := by
  cases negated <;> exact tokens_cons_text rfl ps

/-- `DISTINCT` in front of the arguments of an aggregate. -/
def distinction (distinct : Bool) : List Token := if distinct then [.word "DISTINCT"] else []

theorem tokens_call (f : SqlFunction) (distinct : Bool) (ps : List Piece) :
    tokens (.text (f.sql ++ "(" ++ if distinct then "DISTINCT " else "") :: ps ++ [.text ")"])
      = .word f.sql :: .word "(" :: (distinction distinct ++ (tokens ps ++ [.word ")"])) := by
  have opening : tokens (.text (f.sql ++ "(" ++ if distinct then "DISTINCT " else "") :: ps)
      = .word f.sql :: .word "(" :: (distinction distinct ++ tokens ps) := by
    cases f <;> cases distinct <;> exact tokens_cons_text rfl ps
  rw [tokens_append_text rfl, opening, List.cons_append, List.cons_append, List.append_assoc]
  rfl

/-! ## Casts -/

/-- The characters of a name make one token. -/
theorem lexFrom_name {p : Char} {pending cs : List Char} {rest : List Symbol}
    (hp : isNameRest p = true) (hcs : ∀ c ∈ cs, isNameRest c = true) :
    lexFrom (p :: pending) (cs.map .char ++ rest) = lexFrom (cs.reverse ++ p :: pending) rest := by
  induction cs generalizing p pending with
  | nil => rfl
  | cons c cs ih =>
      rw [List.forall_mem_cons] at hcs
      have visible : ¬ c = ' ' := by
        rintro rfl
        exact absurd hcs.1 (by decide)
      have joined : (p :: pending).head?.any (joins · c) = true := by
        simp [joins, hp, hcs.1]
      rw [List.map_cons, List.cons_append, lexFrom, if_neg visible, if_pos joined, ih hcs.1 hcs.2]
      simp

/-- A valid name by itself is one token. -/
theorem lex_of_isValidName {n : String} (h : isValidName n = true) : lex n = [.word n] := by
  have chars := isNameRest_of_isValidName h
  have nonempty : n.toList ≠ [] := by
    intro empty
    rw [isValidName, empty] at h
    cases h
  obtain ⟨c, cs, list⟩ := List.exists_cons_of_ne_nil nonempty
  rw [list, List.forall_mem_cons] at chars
  have visible : ¬ c = ' ' := by
    rintro rfl
    exact absurd chars.1 (by decide)
  have row : lex n = lexFrom [c] (cs.map .char ++ []) := by
    simp [lex, tokens, symbols, Piece.symbols, list, lexFrom, visible]
  rw [row, lexFrom_name chars.1 chars.2, lexFrom, pendingToken]
  · simp [← list]
  · simp

theorem tokens_cast {type : String} (h : isValidName type = true) (ps : List Piece) :
    tokens (.text "CAST(" :: ps ++ [.text (" AS " ++ type ++ ")")])
      = .word "CAST" :: .word "(" :: (tokens ps ++ [.word "AS", .word type, .word ")"]) := by
  have merged : tokens (.text "CAST(" :: ps ++ [.text (" AS " ++ type ++ ")")])
      = tokens (.text "CAST(" :: ps ++ .text " AS " :: [.text type] ++ [.text ")"]) := by
    simp [tokens, symbols_append, symbols_cons, Piece.symbols]
  have opening : lex "CAST(" = [.word "CAST", .word "("] := rfl
  have middle : lex " AS " = [.word "AS"] := rfl
  have closing : lex ")" = [.word ")"] := rfl
  rw [merged, tokens_append_text rfl, tokens_infix rfl rfl, tokens_cons_text rfl, ← lex, ← lex,
    lex_of_isValidName h, opening, middle, closing]
  simp

/-! ## Columns -/

theorem tokens_scopeFaults (scopes : List Scope) (c : ColumnRef) (ps : List Piece) :
    tokens (scopeFaults scopes c ++ ps) = tokens ps := by
  unfold scopeFaults
  split
  · rfl
  · split <;> rfl

end TypedSql
