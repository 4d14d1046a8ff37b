import TypedSql.Proofs.Grammar.Agreement

/-!
# Expressions are read back

**Theorem (`Expr.parse_eq`).** The text of an expression is read by the grammar of SQL, and what it
is read as has the value of the expression under every interpretation.

The induction is on the expression. A conjunction inside a conjunction is where the tree that is
read differs from the expression: the operands of both are taken from left to right. That the value
is the same is the associativity of AND and OR in three-valued logic.
-/

namespace TypedSql

universe u

variable {scopes : List Scope} {t : Tree} {e : Expr}

namespace Expr

/-! ## AND and OR -/

/-- The texts of the expressions, as operands of the connective, add their values from left to
right to an operand in front. -/
structure ListJoins (scopes : List Scope) (op : LogicalOp) (es : List Expr) (g : Tree → Tree) :
    Prop where
  reads : Extended op
    ((logicalPieces op scopes es).flatMap fun ps => lex op.separator ++ tokens ps) g
  value : ∀ (V : Type u) (I : Interpretation V) (acc : Tree),
    (g acc).eval I = (listEval I scopes es).foldl (I.connect op) (acc.eval I)

theorem ListJoins.nil (scopes : List Scope) (op : LogicalOp) :
    ListJoins.{u} scopes op [] id := by
  constructor
  · intro n _ acc rest _
    rfl
  · intro V I acc
    rfl

theorem ListJoins.cons {op : LogicalOp} {es : List Expr} {f g : Tree → Tree}
    (first : Joins.{u} scopes op e f) (rest : ListJoins.{u} scopes op es g) :
    ListJoins.{u} scopes op (e :: es) (g ∘ f) := by
  constructor
  · rw [logicalPieces, List.flatMap_cons]
    exact first.reads.append rest.reads
  · intro V I acc
    rw [Function.comp_apply, rest.value, first.value, listEval, List.foldl_cons]

/-- A conjunction or disjunction inside the other one is guarded. -/
theorem isOtherLogical_logical {op inner : LogicalOp} (h : inner ≠ op) (es : List Expr) :
    isOtherLogical op (.logical inner es) = true := by
  simpa [isOtherLogical] using h

theorem isOtherLogical_self (op : LogicalOp) (es : List Expr) :
    isOtherLogical op (.logical op es) = false := by
  simp [isOtherLogical]

/-- As an operand of its own connective, a chain has no parentheses and goes on the one in front. -/
theorem ReadAs.chain_understood {op : LogicalOp} {es : List Expr}
    (whole : ReadAs.{u} scopes (.logical op es) t)
    (own : ∃ g, Joins.{u} scopes op (.logical op es) g) :
    Understood.{u} scopes (.logical op es) := by
  refine ⟨⟨t, whole⟩, fun outer => ?_⟩
  by_cases same : op = outer
  · subst same
    exact own
  · refine whole.joins fun loose => ?_
    rw [isOtherLogical_logical same] at loose
    cases loose

theorem tokens_identity (op : LogicalOp) (scopes : List Scope) :
    tokens (pieces scopes (.logical op [])) = lex (if op.neutral then "TRUE" else "FALSE") := by
  cases op <;> exact congrArg tokens (by rw [pieces]; rfl)

/-- A chain without operands is read as a truth value. -/
theorem understood_identity (op : LogicalOp) (scopes : List Scope) :
    Understood.{u} scopes (.logical op []) := by
  have atom := readBack_truth op.neutral
  rw [← tokens_identity op scopes] at atom
  have value : ∀ (V : Type u) (I : Interpretation V),
      (Tree.truth op.neutral).eval I = eval I scopes (.logical op []) := by
    intro V I
    rw [Tree.eval, eval]
  have whole : ReadAs.{u} scopes (.logical op []) (.truth op.neutral) := by
    refine ⟨atom.mono ?_, value⟩
    rw [precedence_logical]
    cases op <;> decide
  refine whole.chain_understood ⟨fun acc => .logical op acc (.truth op.neutral), ?_, ?_⟩
  · rw [isOtherLogical_self, lex_separator]
    refine ReadBack.extended (atom.mono ?_)
    cases op <;> decide
  · intro V I acc
    rw [Tree.eval, value]

theorem tokens_logical (op : LogicalOp) (scopes : List Scope) (e : Expr) (es : List Expr) :
    tokens (pieces scopes (.logical op (e :: es)))
      = tokens (Piece.guarded (e.isOtherLogical op) (e.pieces scopes))
        ++ (logicalPieces op scopes es).flatMap fun ps => lex op.separator ++ tokens ps := by
  rw [pieces, tokens_operands]

theorem Understood.logical {op : LogicalOp} {es : List Expr} {g : Tree → Tree}
    (first : Understood.{u} scopes e) (rest : ListJoins.{u} scopes op es g) :
    Understood.{u} scopes (.logical op (e :: es)) := by
  obtain ⟨t, head⟩ := first.whole
  have whole : ReadAs.{u} scopes (.logical op (e :: es)) (g t) := by
    constructor
    · rw [tokens_logical, precedence_logical]
      refine ReadBack.chain (head.reads.guarded e.one_le_precedence ?_ level_le_precedence)
        rest.reads
      cases op <;> decide
    · intro V I
      rw [rest.value, eval, head.value]
  obtain ⟨f, joined⟩ := first.joins op
  refine whole.chain_understood ⟨g ∘ f, ?_, ?_⟩
  · rw [isOtherLogical_self]
    change Extended op (lex op.separator ++ tokens (pieces scopes (.logical op (e :: es)))) _
    rw [tokens_logical, ← List.append_assoc]
    exact joined.reads.append rest.reads
  · intro V I acc
    rw [Function.comp_apply, rest.value, joined.value, eval, I.connect_foldl]

end Expr

/-! ## Every expression -/

mutual

theorem Expr.understood (levels : List Level) :
    (e : Expr) → (∀ l ∈ e.leaves, l.Plain) →
      Expr.Understood.{u} (levels.map Scope.ofSource) e
  | .column c, _ => (Expr.ReadAs.column _ c).understood rfl
  | .label name, _ => (Expr.ReadAs.label _ name).understood rfl
  | .bind p, _ => (Expr.ReadAs.bind _ p).understood rfl
  | .countRows, _ => (Expr.ReadAs.countRows _).understood rfl
  | .compare op lhs rhs, h => by
    rw [Expr.leaves, List.forall_mem_append] at h
    obtain ⟨t, left⟩ := (lhs.understood levels h.1).whole
    obtain ⟨u, right⟩ := (rhs.understood levels h.2).whole
    exact (left.compare op right).understood rfl
  | .binary op lhs rhs, h => by
    rw [Expr.leaves, List.forall_mem_append] at h
    obtain ⟨t, left⟩ := (lhs.understood levels h.1).whole
    obtain ⟨u, right⟩ := (rhs.understood levels h.2).whole
    exact (left.binary op right).understood rfl
  | .like negated e pattern none, h => by
    simp only [Expr.leaves, List.forall_mem_append] at h
    obtain ⟨t, operand⟩ := (e.understood levels h.1.1).whole
    obtain ⟨u, matched⟩ := (pattern.understood levels h.1.2).whole
    exact (operand.like negated matched).understood rfl
  | .like negated e pattern (some escape), h => by
    simp only [Expr.leaves, optionLeaves, List.forall_mem_append] at h
    obtain ⟨t, operand⟩ := (e.understood levels h.1.1).whole
    obtain ⟨u, matched⟩ := (pattern.understood levels h.1.2).whole
    obtain ⟨v, escaped⟩ := (escape.understood levels h.2).whole
    exact (operand.likeEscape negated matched escaped).understood rfl
  | .isNull negated e, h => by
    rw [Expr.leaves] at h
    obtain ⟨t, operand⟩ := (e.understood levels h).whole
    exact (operand.isNull negated).understood rfl
  | .not e, h => by
    rw [Expr.leaves] at h
    obtain ⟨t, operand⟩ := (e.understood levels h).whole
    exact operand.not.understood rfl
  | .cast e type, h => by
    rw [Expr.leaves, List.forall_mem_append, List.forall_mem_singleton] at h
    obtain ⟨t, operand⟩ := (e.understood levels h.1).whole
    exact (operand.cast type h.2).understood rfl
  | .between negated e low high, h => by
    simp only [Expr.leaves, List.forall_mem_append] at h
    obtain ⟨t, operand⟩ := (e.understood levels h.1.1).whole
    obtain ⟨u, first⟩ := (low.understood levels h.1.2).whole
    obtain ⟨v, last⟩ := (high.understood levels h.2).whole
    exact (operand.between negated first last).understood rfl
  | .inList negated e [], _ => (Expr.ReadAs.inEmpty _ negated e).understood rfl
  | .inList negated e (item :: items), h => by
    rw [Expr.leaves, List.forall_mem_append, listLeaves, List.forall_mem_append] at h
    obtain ⟨t, operand⟩ := (e.understood levels h.1).whole
    obtain ⟨u, first⟩ := (item.understood levels h.2.1).whole
    obtain ⟨ts, rest⟩ := list_readAs levels items h.2.2
    exact (operand.inList negated (.cons first rest)).understood rfl
  | .inQuery negated e query, h => by
    rw [Expr.leaves, List.forall_mem_append] at h
    obtain ⟨t, operand⟩ := (e.understood levels h.1).whole
    exact (operand.inQuery negated query (query.written levels).balanced).understood rfl
  | .existsIn negated query, _ => by
    obtain ⟨t, whole⟩ := Expr.ReadAs.existsIn negated query (query.written levels).balanced
    exact whole.understood rfl
  | .scalar query, _ => (Expr.ReadAs.scalar query (query.written levels).balanced).understood rfl
  | .logical op [], _ => Expr.understood_identity op _
  | .logical op (e :: operands), h => by
    rw [Expr.leaves, listLeaves, List.forall_mem_append] at h
    obtain ⟨g, rest⟩ := list_joins levels op operands h.2
    exact (e.understood levels h.1).logical rest
  | .call f distinct args, h => by
    rw [Expr.leaves] at h
    obtain ⟨ts, members⟩ := list_readAs levels args h
    exact (members.call f distinct).understood rfl

theorem list_readAs (levels : List Level) :
    (es : List Expr) → (∀ l ∈ listLeaves es, l.Plain) →
      ∃ ts, Expr.ListReadAs.{u} (levels.map Scope.ofSource) es ts
  | [], _ => ⟨[], .nil⟩
  | e :: es, h => by
    rw [listLeaves, List.forall_mem_append] at h
    obtain ⟨t, first⟩ := (e.understood levels h.1).whole
    obtain ⟨ts, rest⟩ := list_readAs levels es h.2
    exact ⟨t :: ts, .cons first rest⟩

theorem list_joins (levels : List Level) (op : LogicalOp) :
    (es : List Expr) → (∀ l ∈ listLeaves es, l.Plain) →
      ∃ g, Expr.ListJoins.{u} (levels.map Scope.ofSource) op es g
  | [], _ => ⟨id, .nil _ op⟩
  | e :: es, h => by
    rw [listLeaves, List.forall_mem_append] at h
    obtain ⟨f, first⟩ := (e.understood levels h.1).joins op
    obtain ⟨g, rest⟩ := list_joins levels op es h.2
    exact ⟨g ∘ f, .cons first rest⟩

end

/-- **Expressions are read back with their own meaning.** In any dialect, the text of an expression
spells its symbols; their tokens are an expression of the grammar, which has the same value. -/
theorem Expr.parse_eq (levels : List Level) (e : Expr) (h : ∀ l ∈ e.leaves, l.Built) :
    (∀ d, (Piece.sqlText d (e.pieces (levels.map Scope.ofSource))).toList
        = (symbols (e.pieces (levels.map Scope.ofSource))).flatMap (Symbol.spelling d))
      ∧ ∃ t, parse (tokens (e.pieces (levels.map Scope.ofSource))) = some t
        ∧ ∀ (V : Type u) (I : Interpretation V),
          t.eval I = e.eval I (levels.map Scope.ofSource) := by
  obtain ⟨t, whole⟩ := (e.understood.{u} levels fun l hl => (h l hl).plain).whole
  refine ⟨fun d => toList_sqlText d _, t, ?_, whole.value⟩
  have read := whole.reads.inner e.one_le_precedence (Nat.lt_succ_self _) [] Nat.one_pos
  rw [List.append_nil] at read
  rw [parse, read]

/-! ### Parentheses inside a conjunction -/

def gaugeTable : Table := .single ⟨1⟩ "gauge" "level"

def gaugeLevel : Expr := .column (Table.wholeColumn ⟨1⟩ "gauge" "level")

def gaugeMark : Expr := .bind (.blank (Table.wholeColumn ⟨1⟩ "gauge" "level").type)

/-- Every kind of parentheses: those of a sum, of a disjunction and of NOT. -/
def gaugeCondition : Expr :=
  .logical .and [
    .logical .or [
      .compare .lt (.binary .sub gaugeLevel (.binary .add gaugeLevel gaugeMark)) gaugeMark,
      .compare .gt gaugeLevel gaugeMark],
    .not (.isNull false gaugeLevel)]

theorem gaugeCondition_built : ∀ l ∈ gaugeCondition.leaves, l.Built := by
  have table : gaugeTable.Built := Table.single_built ⟨1⟩ (by decide) (by decide)
  have column : (Leaf.column (Table.wholeColumn ⟨1⟩ "gauge" "level")).Built :=
    Leaf.built_of_mem_columns table (List.mem_singleton_self _)
  have mark : (Leaf.bind (.blank (Table.wholeColumn ⟨1⟩ "gauge" "level").type)).Built := .bind _
  simp [gaugeCondition, gaugeLevel, gaugeMark, Expr.leaves, listLeaves, column, mark]

theorem parse_eq_of_gauge :
    Piece.sqlText .generic (gaugeCondition.pieces [⟨"gauge", gaugeTable.columns⟩])
        = "(gauge.level - (gauge.level + ?) < ? OR gauge.level > ?) "
          ++ "AND NOT (gauge.level IS NULL)"
      ∧ ∃ t, parse (tokens (gaugeCondition.pieces [⟨"gauge", gaugeTable.columns⟩])) = some t
        ∧ ∀ (V : Type) (I : Interpretation V),
          t.eval I = gaugeCondition.eval I [⟨"gauge", gaugeTable.columns⟩] :=
  ⟨by decide, (Expr.parse_eq [some (.relation (.table gaugeTable))] _ gaugeCondition_built).2⟩

end TypedSql
