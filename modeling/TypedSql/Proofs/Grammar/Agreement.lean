import TypedSql.Proofs.Grammar.Meaning
import TypedSql.Proofs.Grammar.ReadBack

/-!
# Agreement, node by node

What is to be shown of an expression: its text is read at the level it is written for, as a tree of
the same value (`ReadAs`), and as an operand of AND or OR, the text adds that value to an operand in
front of it (`Joins`).

For every kind of node but AND and OR, the node is read as the corresponding node of the trees that
its operands are read as. Negated EXISTS is read as NOT of EXISTS, and membership in the empty list
as a truth value.
-/

namespace TypedSql

universe u

variable {scopes : List Scope} {t u v : Tree} {e lhs rhs low high pattern escape : Expr}

/-! ## Levels -/

theorem BinaryOp.precedence_mem (op : BinaryOp) : op.precedence ∈ [5, 6, 7] := by
  cases op <;> decide

namespace Expr

/-- A conjunction or disjunction. -/
def isLogical : Expr → Bool
  | .logical .. => true
  | _ => false

theorem three_le_precedence (single : e.isLogical = false) : 3 ≤ e.precedence := by
  cases e with
  | logical op es => cases single
  | binary op lhs rhs =>
      have level := op.precedence_mem
      simp only [List.mem_cons, List.not_mem_nil, or_false] at level
      change 3 ≤ op.precedence
      omega
  | existsIn negated query => cases negated <;> exact Nat.le_of_ble_eq_true rfl
  | _ => exact Nat.le_of_ble_eq_true rfl

theorem precedence_logical (op : LogicalOp) (es : List Expr) :
    precedence (.logical op es) = op.level := by
  cases op <;> rfl

theorem one_le_precedence (e : Expr) : 1 ≤ e.precedence := by
  cases single : e.isLogical with
  | false => exact Nat.le_trans (by decide) (three_le_precedence single)
  | true =>
      cases e with
      | logical op es => cases op <;> exact Nat.le_of_ble_eq_true rfl
      | _ => cases single

/-- What needs no parentheses as an operand of the connective binds at least as tightly. -/
theorem level_le_precedence {op : LogicalOp} (h : e.isOtherLogical op = false) :
    op.level ≤ e.precedence := by
  cases single : e.isLogical with
  | false =>
      have loose : op.level ≤ 3 := by
        cases op <;> decide
      exact Nat.le_trans loose (three_le_precedence single)
  | true =>
      cases e with
      | logical inner es =>
          rw [isOtherLogical, bne_eq_false_iff_eq] at h
          subst h
          exact Nat.le_of_eq (precedence_logical inner es).symm
      | _ => cases single

/-! ## Expressions and trees -/

/-- The text of the expression is read as the tree at the level it is written for, and the tree has
the value of the expression. -/
structure ReadAs (scopes : List Scope) (e : Expr) (t : Tree) : Prop where
  reads : ReadBack e.precedence (tokens (e.pieces scopes)) t
  value : ∀ (V : Type u) (I : Interpretation V), t.eval I = e.eval I scopes

/-- The text of the expression, as an operand of the connective, adds the value of the expression to
an operand in front. -/
structure Joins (scopes : List Scope) (op : LogicalOp) (e : Expr) (g : Tree → Tree) : Prop where
  reads : Extended op
    (lex op.separator ++ tokens (Piece.guarded (e.isOtherLogical op) (e.pieces scopes))) g
  value : ∀ (V : Type u) (I : Interpretation V) (acc : Tree),
    (g acc).eval I = I.connect op (acc.eval I) (e.eval I scopes)

/-- The expression is read back, by itself and as an operand of both connectives. -/
structure Understood (scopes : List Scope) (e : Expr) : Prop where
  whole : ∃ t, ReadAs.{u} scopes e t
  joins : ∀ op, ∃ g, Joins.{u} scopes op e g

/-- What is guarded as an operand of the connective, or binds tightly, joins it as a whole. -/
theorem ReadAs.joins (h : ReadAs.{u} scopes e t) {op : LogicalOp}
    (tight : e.isOtherLogical op = false → op.level + 1 ≤ e.precedence) :
    ∃ g, Joins.{u} scopes op e g := by
  refine ⟨fun acc => .logical op acc t, ?_, ?_⟩
  · rw [lex_separator]
    refine ReadBack.extended (h.reads.guarded e.one_le_precedence ?_ tight)
    cases op <;> decide
  · intro V I acc
    rw [Tree.eval, h.value]

/-- Everything but a conjunction or disjunction joins either as a whole. -/
theorem ReadAs.understood (h : ReadAs.{u} scopes e t) (single : e.isLogical = false) :
    Understood.{u} scopes e := by
  have tight := three_le_precedence single
  refine ⟨⟨t, h⟩, fun op => h.joins fun _ => ?_⟩
  cases op with
  | or => exact Nat.le_trans (by decide) tight
  | and => exact tight

/-- As an operand of a predicate, an expression is read as a sum. -/
theorem ReadAs.sum (h : ReadAs.{u} scopes e t) {n : Nat}
    (hn : (tokens (Piece.guarded (e.precedence ≤ predicateLevel) (e.pieces scopes))).length ≤ n) :
    Reads (Parser.sum (Parser.expr n)) 5
      (tokens (Piece.guarded (e.precedence ≤ predicateLevel) (e.pieces scopes))) t :=
  ReadsAt.sum (h.reads.operand e.one_le_precedence n hn)

/-! ## Predicates -/

theorem ReadAs.compare (op : CompareOp) (left : ReadAs.{u} scopes lhs t)
    (right : ReadAs.{u} scopes rhs u) :
    ReadAs.{u} scopes (.compare op lhs rhs) (.compare op t u) := by
  constructor
  · intro n hn
    have row : tokens ((Expr.compare op lhs rhs).pieces scopes)
        = tokens (Piece.guarded (lhs.precedence ≤ predicateLevel) (lhs.pieces scopes))
          ++ .word op.sql
          :: tokens (Piece.guarded (rhs.precedence ≤ predicateLevel) (rhs.pieces scopes)) := by
      rw [pieces, tokens_compare]
    rw [row] at hn ⊢
    simp only [List.length_append, List.length_cons] at hn
    exact reads_compare op (left.sum (by omega)) (right.sum (by omega))
  · intro V I
    rw [Tree.eval, eval, left.value, right.value]

theorem ReadAs.isNull (negated : Bool) (operand : ReadAs.{u} scopes e t) :
    ReadAs.{u} scopes (.isNull negated e) (.isNull negated t) := by
  constructor
  · intro n hn
    have row : tokens ((Expr.isNull negated e).pieces scopes)
        = tokens (Piece.guarded (e.precedence ≤ predicateLevel) (e.pieces scopes))
          ++ .word "IS" :: negation negated ++ [.word "NULL"] := by
      rw [pieces, tokens_isNull]
    rw [row] at hn ⊢
    simp only [List.length_append] at hn
    exact reads_isNull negated (operand.sum (by omega))
  · intro V I
    rw [Tree.eval, eval, operand.value]

theorem ReadAs.like (negated : Bool) (operand : ReadAs.{u} scopes e t)
    (matched : ReadAs.{u} scopes pattern u) :
    ReadAs.{u} scopes (.like negated e pattern none) (.like negated t u none) := by
  constructor
  · intro n hn
    have row : tokens ((Expr.like negated e pattern none).pieces scopes)
        = tokens (Piece.guarded (e.precedence ≤ predicateLevel) (e.pieces scopes))
          ++ negation negated ++ .word "LIKE"
          :: tokens (Piece.guarded (pattern.precedence ≤ predicateLevel)
            (pattern.pieces scopes)) := by
      rw [pieces, escapePieces, List.append_nil, tokens_negatable negated rfl]
      rfl
    rw [row] at hn ⊢
    simp only [List.length_append, List.length_cons] at hn
    exact reads_like negated (operand.sum (by omega)) (matched.sum (by omega))
  · intro V I
    rw [Tree.eval, eval, operand.value, matched.value, optionEval, optionTreeEval]

theorem ReadAs.likeEscape (negated : Bool) (operand : ReadAs.{u} scopes e t)
    (matched : ReadAs.{u} scopes pattern u) (escaped : ReadAs.{u} scopes escape v) :
    ReadAs.{u} scopes (.like negated e pattern (some escape)) (.like negated t u (some v)) := by
  constructor
  · intro n hn
    have row : tokens ((Expr.like negated e pattern (some escape)).pieces scopes)
        = tokens (Piece.guarded (e.precedence ≤ predicateLevel) (e.pieces scopes))
          ++ negation negated ++ .word "LIKE"
          :: (tokens (Piece.guarded (pattern.precedence ≤ predicateLevel) (pattern.pieces scopes))
            ++ .word "ESCAPE"
            :: tokens (Piece.guarded (escape.precedence ≤ predicateLevel)
              (escape.pieces scopes))) := by
      rw [pieces, escapePieces, tokens_infix rfl rfl, tokens_negatable negated rfl]
      simp only [List.append_assoc]
      rfl
    rw [row] at hn ⊢
    simp only [List.length_append, List.length_cons] at hn
    exact reads_likeEscape negated (operand.sum (by omega)) (matched.sum (by omega))
      (escaped.sum (by omega))
  · intro V I
    rw [Tree.eval, eval, operand.value, matched.value, optionEval, optionTreeEval, escaped.value]

theorem ReadAs.between (negated : Bool) (operand : ReadAs.{u} scopes e t)
    (first : ReadAs.{u} scopes low u) (last : ReadAs.{u} scopes high v) :
    ReadAs.{u} scopes (.between negated e low high) (.between negated t u v) := by
  constructor
  · intro n hn
    have row : tokens ((Expr.between negated e low high).pieces scopes)
        = tokens (Piece.guarded (e.precedence ≤ predicateLevel) (e.pieces scopes))
          ++ negation negated ++ .word "BETWEEN"
          :: (tokens (Piece.guarded (low.precedence ≤ predicateLevel) (low.pieces scopes))
            ++ .word "AND"
            :: tokens (Piece.guarded (high.precedence ≤ predicateLevel)
              (high.pieces scopes))) := by
      rw [pieces, tokens_infix rfl rfl, tokens_negatable negated rfl]
      simp only [List.append_assoc]
      rfl
    rw [row] at hn ⊢
    simp only [List.length_append, List.length_cons] at hn
    exact reads_between negated (operand.sum (by omega)) (first.sum (by omega))
      (last.sum (by omega))
  · intro V I
    rw [Tree.eval, eval, operand.value, first.value, last.value]

theorem ReadAs.inQuery (negated : Bool) (operand : ReadAs.{u} scopes e t) (query : Select)
    (body : Balanced (query.pieces scopes)) :
    ReadAs.{u} scopes (.inQuery negated e query)
      (.inQuery negated t (tokens (query.pieces scopes))) := by
  constructor
  · intro n hn
    have row : tokens ((Expr.inQuery negated e query).pieces scopes)
        = tokens (Piece.guarded (e.precedence ≤ predicateLevel) (e.pieces scopes))
          ++ negation negated ++ .word "IN" :: tokens (Piece.nested (query.pieces scopes)) := by
      rw [pieces, tokens_negatable negated rfl]
      rfl
    rw [row] at hn ⊢
    simp only [List.length_append] at hn
    exact reads_inQuery negated (operand.sum (by omega)) body
  · intro V I
    rw [Tree.eval, eval, operand.value]

/-! ## Operators -/

theorem ReadAs.not (operand : ReadAs.{u} scopes e t) :
    ReadAs.{u} scopes (.not e) (.not t) := by
  constructor
  · intro n hn
    have row : tokens ((Expr.not e).pieces scopes)
        = .word "NOT" :: tokens (Piece.guarded (e.precedence < atomLevel) (e.pieces scopes)) := by
      rw [pieces, tokens_cons_text rfl]
      rfl
    rw [row] at hn ⊢
    rw [List.length_cons] at hn
    have atom : ReadBack 3
        (tokens (Piece.guarded (e.precedence < atomLevel) (e.pieces scopes))) t := by
      refine operand.reads.guarded e.one_le_precedence (by decide) fun loose => ?_
      have tight := of_decide_eq_false loose
      unfold atomLevel at tight
      omega
    exact reads_not (atom n (by omega))
  · intro V I
    rw [Tree.eval, eval, operand.value]

theorem ReadAs.binary (op : BinaryOp) (left : ReadAs.{u} scopes lhs t)
    (right : ReadAs.{u} scopes rhs u) :
    ReadAs.{u} scopes (.binary op lhs rhs) (.binary op t u) := by
  have level := op.precedence_mem
  simp only [List.mem_cons, List.not_mem_nil, or_false] at level
  constructor
  · intro n hn
    have row : tokens ((Expr.binary op lhs rhs).pieces scopes)
        = tokens (Piece.guarded (lhs.precedence < op.precedence) (lhs.pieces scopes))
          ++ .word op.sql
          :: tokens (Piece.guarded (rhs.precedence ≤ op.precedence) (rhs.pieces scopes)) := by
      rw [pieces, tokens_binary]
    rw [row] at hn ⊢
    simp only [List.length_append, List.length_cons] at hn
    have first : ReadBack op.precedence
        (tokens (Piece.guarded (lhs.precedence < op.precedence) (lhs.pieces scopes))) t := by
      refine left.reads.guarded lhs.one_le_precedence ?_ fun loose => ?_
      · unfold atomLevel
        omega
      · exact Nat.le_of_not_lt (of_decide_eq_false loose)
    have second : ReadBack (op.precedence + 1)
        (tokens (Piece.guarded (rhs.precedence ≤ op.precedence) (rhs.pieces scopes))) u := by
      refine right.reads.guarded rhs.one_le_precedence ?_ fun loose => ?_
      · unfold atomLevel
        omega
      · exact Nat.lt_of_not_le (of_decide_eq_false loose)
    exact reads_binary op (first n (by omega)) (second n (by omega))
  · intro V I
    rw [Tree.eval, eval, left.value, right.value]

/-! ## Lists -/

/-- The texts of the expressions are read one by one, and the trees have their values. -/
structure ListReadAs (scopes : List Scope) (es : List Expr) (ts : List Tree) : Prop where
  reads : List.Forall₂ (fun ps t => ReadBack 1 (tokens ps) t) (listPieces scopes es) ts
  value : ∀ (V : Type u) (I : Interpretation V), listTreeEval I ts = listEval I scopes es

theorem ListReadAs.nil : ListReadAs.{u} scopes [] [] := ⟨.nil, fun _ _ => rfl⟩

theorem ListReadAs.cons {es : List Expr} {ts : List Tree} (first : ReadAs.{u} scopes e t)
    (rest : ListReadAs.{u} scopes es ts) : ListReadAs.{u} scopes (e :: es) (t :: ts) := by
  constructor
  · rw [listPieces]
    exact .cons (first.reads.mono e.one_le_precedence) rest.reads
  · intro V I
    rw [listTreeEval, listEval, first.value, rest.value]

theorem ReadAs.inList (negated : Bool) (operand : ReadAs.{u} scopes e t) {item : Expr}
    {items : List Expr} {ts : List Tree} (members : ListReadAs.{u} scopes (item :: items) ts) :
    ReadAs.{u} scopes (.inList negated e (item :: items)) (.inList negated t ts) := by
  constructor
  · intro n hn
    have row : tokens ((Expr.inList negated e (item :: items)).pieces scopes)
        = tokens (Piece.guarded (e.precedence ≤ predicateLevel) (e.pieces scopes))
          ++ negation negated ++ .word "IN" :: (.word "("
          :: (tokens (Piece.separated ", " (listPieces scopes (item :: items)))
            ++ [.word ")"])) := by
      rw [pieces, tokens_append_text rfl, tokens_negatable negated rfl]
      simp only [List.append_assoc]
      rfl
    rw [row] at hn ⊢
    simp only [List.length_append, List.length_cons] at hn
    exact reads_inList negated (operand.sum (by omega))
      (Closes.expr (by decide) (by decide) n) (ReadBack.members members.reads (by omega))
  · intro V I
    rw [Tree.eval, eval, operand.value, members.value]

theorem ListReadAs.call (f : SqlFunction) (distinct : Bool) {args : List Expr} {ts : List Tree}
    (members : ListReadAs.{u} scopes args ts) :
    ReadAs.{u} scopes (.call f distinct args) (.call f distinct ts) := by
  constructor
  · intro n hn
    have row : tokens ((Expr.call f distinct args).pieces scopes)
        = .word f.sql :: .word "(" :: (distinction distinct
          ++ (tokens (Piece.separated ", " (listPieces scopes args)) ++ [.word ")"])) := by
      rw [pieces, tokens_call]
    rw [row] at hn ⊢
    simp only [List.length_append, List.length_cons] at hn
    exact reads_call f distinct (fun s h other => h.expr other n)
      (ReadBack.members members.reads (by omega))
  · intro V I
    rw [Tree.eval, eval, members.value]

/-! ## Atoms -/

theorem ReadAs.cast (type : String) (valid : isValidName type = true)
    (operand : ReadAs.{u} scopes e t) : ReadAs.{u} scopes (.cast e type) (.cast t type) := by
  constructor
  · intro n hn
    have row : tokens ((Expr.cast e type).pieces scopes)
        = .word "CAST" :: .word "("
          :: (tokens (e.pieces scopes) ++ [.word "AS", .word type, .word ")"]) := by
      rw [pieces, tokens_cast valid]
    rw [row] at hn ⊢
    simp only [List.length_append, List.length_cons] at hn
    exact reads_cast type (operand.reads.inner e.one_le_precedence (by omega))
  · intro V I
    rw [Tree.eval, eval, operand.value]

theorem ReadAs.column (scopes : List Scope) (c : ColumnRef) :
    ReadAs.{u} scopes (.column c) (.reference c.written c.name) := by
  constructor
  · intro n _
    rw [pieces, tokens_scopeFaults]
    exact reads_reference c.qualifier c.name
  · intro V I
    rw [Tree.eval, eval]

theorem ReadAs.label (scopes : List Scope) (name : String) :
    ReadAs.{u} scopes (.label name) (.reference none name) := by
  constructor
  · intro n _
    exact reads_label name
  · intro V I
    rw [Tree.eval, eval]

theorem ReadAs.bind (scopes : List Scope) (p : Placeholder) :
    ReadAs.{u} scopes (.bind p) (.mark p) := by
  constructor
  · intro n _
    exact reads_mark p
  · intro V I
    exact Tree.eval_mark I scopes p

theorem ReadAs.countRows (scopes : List Scope) : ReadAs.{u} scopes .countRows .countRows := by
  constructor
  · intro n _
    exact reads_countRows
  · intro V I
    rw [Tree.eval, eval]

theorem ReadAs.scalar (query : Select)
    (body : Balanced (query.pieces scopes)) :
    ReadAs.{u} scopes (.scalar query) (.scalar (tokens (query.pieces scopes))) := by
  constructor
  · intro n _
    exact reads_scalar body
  · intro V I
    rw [Tree.eval, eval]

theorem readBack_truth (value : Bool) :
    ReadBack atomLevel (lex (if value then "TRUE" else "FALSE")) (.truth value) := by
  have word : lex (if value then "TRUE" else "FALSE")
      = [.word (if value then "TRUE" else "FALSE")] := by
    cases value <;> rfl
  intro n _
  rw [word]
  exact reads_truth value

/-- Whether something is in the empty list does not depend on it. -/
theorem ReadAs.inEmpty (scopes : List Scope) (negated : Bool) (e : Expr) :
    ReadAs.{u} scopes (.inList negated e []) (.truth negated) := by
  constructor
  · have row : tokens ((Expr.inList negated e []).pieces scopes)
        = lex (if negated then "TRUE" else "FALSE") := by
      rw [pieces]
      rfl
    rw [row]
    exact (readBack_truth negated).mono (Nat.le_of_ble_eq_true rfl)
  · intro V I
    rw [Tree.eval, eval, listEval]
    cases negated <;> rfl

theorem ReadAs.existsIn (negated : Bool) (query : Select)
    (body : Balanced (query.pieces scopes)) :
    ∃ t, ReadAs.{u} scopes (.existsIn negated query) t := by
  have row : tokens ((Expr.existsIn negated query).pieces scopes)
      = negation negated ++ .word "EXISTS" :: tokens (Piece.nested (query.pieces scopes)) := by
    rw [pieces, tokens_exists]
  cases negated with
  | false =>
      refine ⟨.existsIn (tokens (query.pieces scopes)), ?_, ?_⟩
      · intro n _
        rw [row]
        exact reads_existsIn body
      · intro V I
        rw [Tree.eval, eval]
  | true =>
      refine ⟨.not (.existsIn (tokens (query.pieces scopes))), ?_, ?_⟩
      · intro n _
        have atom : ReadsAt (Parser.expr n) atomLevel
            (.word "EXISTS" :: tokens (Piece.nested (query.pieces scopes)))
            (.existsIn (tokens (query.pieces scopes))) := reads_existsIn body
        rw [row]
        exact reads_not (atom.mono (l := 3) (by decide))
      · intro V I
        rw [Tree.eval, Tree.eval, eval, Interpretation.test, Interpretation.test,
          I.truth_ofTruth]
        rfl

end Expr

end TypedSql
