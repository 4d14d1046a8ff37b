import TypedSql.Proofs.Outline.Calls
import TypedSql.Proofs.Query.Flattening
import TypedSql.Proofs.Render.Assigning

/-!
# The normal form of predicates

An expression is in normal form where it stands if it is neither a conjunction in a conjunction, nor
a disjunction in a disjunction, nor the negation of something that has a negated form of its own.

**Theorem (`Called.normal_form`).** Whatever calls put together is in normal form everywhere, down
to the queries nested in it and the queries behind its views. So a predicate negated twice is the
predicate again.

Combining takes apart the uppermost rows only, and negation looks at nothing but the top; that this
is enough is the invariant itself. The induction is on the calls, with one lemma for each way to put
expressions together (`normal_combine`, `normal_negate`, `normal_fold`, `normal_andAlso`).
-/

namespace TypedSql

/-! ## The expressions in an expression -/

mutual

/-- The expressions inside, at any depth. -/
def Expr.inner : Expr → List Expr
  | .column _ | .label _ | .bind _ | .countRows => []
  | .compare _ lhs rhs | .binary _ lhs rhs => lhs :: lhs.inner ++ rhs :: rhs.inner
  | .like _ e pattern escape => e :: e.inner ++ pattern :: pattern.inner ++ optionNodes escape
  | .isNull _ e | .not e | .cast e _ => e :: e.inner
  | .between _ e low high => e :: e.inner ++ low :: low.inner ++ high :: high.inner
  | .inList _ e items => e :: e.inner ++ listNodes items
  | .inQuery _ e query => e :: e.inner ++ query.nodes
  | .existsIn _ query | .scalar query => query.nodes
  | .logical _ operands => listNodes operands
  | .call _ _ args => listNodes args

def optionNodes : Option Expr → List Expr
  | none => []
  | some e => e :: e.inner

def listNodes : List Expr → List Expr
  | [] => []
  | e :: rest => e :: e.inner ++ listNodes rest

def itemNodes : List ResultItem → List Expr
  | [] => []
  | .column _ :: rest => itemNodes rest
  | .labelled _ e _ :: rest => e :: e.inner ++ itemNodes rest

def sortNodes : List SortTerm → List Expr
  | [] => []
  | ⟨e, _⟩ :: rest => e :: e.inner ++ sortNodes rest

def Select.nodes : Select → List Expr
  | ⟨source, _, items, filter, groupBy, having, orderBy, _, _, _⟩ =>
    fromNodes source ++ itemNodes items ++ optionNodes filter ++ listNodes groupBy
      ++ optionNodes having ++ sortNodes orderBy

def fromNodes : Option Source → List Expr
  | none => []
  | some s => s.nodes

def branchNodes : List Branch → List Expr
  | [] => []
  | ⟨_, query⟩ :: rest => query.nodes ++ branchNodes rest

def Query.nodes : Query → List Expr
  | .select q => q.nodes
  | .compound ⟨first, branches, _, _, _, _⟩ => first.nodes ++ branchNodes branches

def Relation.nodes : Relation → List Expr
  | .table _ => []
  | .view _ _ query => query.nodes
  | .subquery _ query => query.nodes

def Source.nodes : Source → List Expr
  | .relation r => r.nodes
  | .alias _ _ r => r.nodes
  | .join _ lhs rhs on => lhs.nodes ++ rhs.nodes ++ optionNodes on

end

/-- The expression and those inside. -/
def Expr.nodes (e : Expr) : List Expr := e :: e.inner

def Assignments.nodes (a : Assignments) : List Expr := a.pairs.flatMap fun (_, e) => e.nodes

def Statement.nodes : Statement → List Expr
  | .query q => q.nodes
  | .insert i => i.values.nodes
  | .update u => u.assignments.nodes ++ optionNodes u.filter
  | .delete d => optionNodes d.filter

/-- A plain value becomes an expression where it is used. -/
def Operand.nodes {t : ValueType} : Operand t → List Expr
  | .expr e _ => e.nodes
  | .value _ => []

/-- The expressions in what calls take and give. -/
def Form.nodes : (f : Form) → f.Thing → List Expr
  | .column _, _ | .param _, _ | .target _, _ | .placeholder, _ => []
  | .projection _, p => p.expr.nodes
  | .expression _, e => e.expr.nodes
  | .operand _, o => o.nodes
  | .operands _, os => os.flatMap Operand.nodes
  | .predicate, p => p.expr.nodes
  | .predicates, ps => ps.flatMap (·.expr.nodes)
  | .source, s => s.nodes
  | .select, q => q.nodes
  | .compound, q => (Query.compound q).nodes
  | .query, q => q.nodes
  | .insert, i => i.values.nodes
  | .updateDraft, u => optionNodes u.filter
  | .update, u => u.assignments.nodes ++ optionNodes u.filter
  | .delete, d => optionNodes d.filter
  | .statement, s => s.nodes

theorem listNodes_eq_flatMap (es : List Expr) : listNodes es = es.flatMap Expr.nodes := by
  induction es with
  | nil => rfl
  | cons e es ih => rw [listNodes, ih, List.flatMap_cons, Expr.nodes]

theorem listNodes_append (es fs : List Expr) :
    listNodes (es ++ fs) = listNodes es ++ listNodes fs := by
  simp only [listNodes_eq_flatMap, List.flatMap_append]

theorem itemNodes_append (is js : List ResultItem) :
    itemNodes (is ++ js) = itemNodes is ++ itemNodes js := by
  induction is with
  | nil => rfl
  | cons i is ih =>
    cases i with
    | column c => rw [List.cons_append, itemNodes, ih, itemNodes]
    | labelled key e type =>
      rw [List.cons_append, itemNodes, ih, itemNodes, List.append_assoc]

theorem itemNodes_columns (cs : List ColumnRef) :
    itemNodes (cs.map ResultItem.column) = [] := by
  induction cs with
  | nil => rfl
  | cons c cs ih => rw [List.map_cons, itemNodes, ih]

theorem sortNodes_append (ts us : List SortTerm) :
    sortNodes (ts ++ us) = sortNodes ts ++ sortNodes us := by
  induction ts with
  | nil => rfl
  | cons t ts ih =>
    obtain ⟨e, order⟩ := t
    rw [List.cons_append, sortNodes, ih, sortNodes, List.append_assoc]

theorem branchNodes_append (bs cs : List Branch) :
    branchNodes (bs ++ cs) = branchNodes bs ++ branchNodes cs := by
  induction bs with
  | nil => rfl
  | cons b bs ih =>
    obtain ⟨operator, query⟩ := b
    rw [List.cons_append, branchNodes, ih, branchNodes, List.append_assoc]

theorem Select.nodes_eq (q : Select) :
    q.nodes = fromNodes q.source ++ itemNodes q.items ++ optionNodes q.filter
      ++ listNodes q.groupBy ++ optionNodes q.having ++ sortNodes q.orderBy := by
  cases q
  rfl

theorem Compound.nodes_eq (q : Compound) :
    (Query.compound q).nodes = q.first.nodes ++ branchNodes q.branches := by
  cases q
  rfl

theorem listNodes_singleton (e : Expr) : listNodes [e] = e.nodes := by
  rw [listNodes_eq_flatMap, List.flatMap_singleton]

/-! ## Normal form -/

namespace Expr

/-- A conjunction or disjunction of the operator. -/
def isRow (op : LogicalOp) : Expr → Bool
  | .logical inner _ => inner == op
  | _ => false

/-- Negation is taken into the expression. -/
def takesNot : Expr → Bool
  | .not _ | .like _ _ _ _ | .isNull _ _ | .between _ _ _ _ | .inList _ _ _ | .inQuery _ _ _
  | .existsIn _ _ => true
  | _ => false

/-- In normal form at the top. -/
def NormalTop : Expr → Prop
  | .logical op operands => ∀ e ∈ operands, e.isRow op = false
  | .not e => e.takesNot = false
  | _ => True

end Expr

/-- All of the expressions are in normal form. -/
def Normal (es : List Expr) : Prop := ∀ e ∈ es, e.NormalTop

theorem normal_nil : Normal [] := List.forall_mem_nil _

theorem normal_append {es fs : List Expr} :
    Normal (es ++ fs) ↔ Normal es ∧ Normal fs := List.forall_mem_append

theorem normal_flatMap {α : Type} {xs : List α} {f : α → List Expr} :
    Normal (xs.flatMap f) ↔ ∀ x ∈ xs, Normal (f x) := by
  simp only [Normal, List.mem_flatMap]
  exact ⟨fun h x hx e he => h e ⟨x, hx, he⟩, fun h e ⟨x, hx, he⟩ => h x hx e he⟩

namespace Expr

theorem normal_node {e : Expr} (top : e.NormalTop) (inner : Normal e.inner) : Normal e.nodes :=
  List.forall_mem_cons.2 ⟨top, inner⟩

theorem normalTop_of_normal {e : Expr} (h : Normal e.nodes) : e.NormalTop := h e List.mem_cons_self

theorem normal_inner {e : Expr} (h : Normal e.nodes) : Normal e.inner :=
  fun x hx => h x (List.mem_cons_of_mem e hx)

theorem normal_column (c : ColumnRef) : Normal (Expr.column c).nodes :=
  normal_node trivial normal_nil

theorem normal_bind (p : Placeholder) : Normal (Expr.bind p).nodes :=
  normal_node trivial normal_nil

/-! ### Combining -/

theorem isRow_operandsOf {op : LogicalOp} {e : Expr} (h : e.NormalTop) :
    ∀ x ∈ e.operandsOf op, x.isRow op = false := by
  cases e with
  | logical inner operands =>
    rw [operandsOf]
    split
    · next same => exact same ▸ h
    · next other => exact List.forall_mem_singleton.2 (beq_false_of_ne other)
  | _ => exact List.forall_mem_singleton.2 rfl

theorem normal_operandsOf {op : LogicalOp} {e : Expr} (h : Normal e.nodes) :
    Normal (listNodes (e.operandsOf op)) := by
  have alone (e : Expr) (h : Normal e.nodes) : Normal (listNodes [e]) :=
    (listNodes_singleton e).symm ▸ h
  cases e with
  | logical inner operands =>
    rw [operandsOf]
    split
    · exact normal_inner h
    · exact alone _ h
  | _ => exact alone _ h

/-- The rows that are joined hold no row of the operator, so neither does the longer one. -/
theorem normal_combine {op : LogicalOp} {lhs rhs : Expr} (hl : Normal lhs.nodes)
    (hr : Normal rhs.nodes) : Normal (combine op lhs rhs).nodes := by
  refine normal_node ?_ ?_
  · exact List.forall_mem_append.2
      ⟨isRow_operandsOf (normalTop_of_normal hl), isRow_operandsOf (normalTop_of_normal hr)⟩
  · rw [combine, inner, listNodes_append]
    exact normal_append.2 ⟨normal_operandsOf hl, normal_operandsOf hr⟩

theorem normal_andAlso {filter : Option Expr} {e : Expr} (hf : Normal (optionNodes filter))
    (he : Normal e.nodes) : Normal (andAlso filter e).nodes := by
  cases filter with
  | none => exact he
  | some f => exact normal_combine hf he

/-! ### Negating -/

/-- What is negated inside takes no negation itself; anything else takes it, or is no negation. -/
theorem normal_negate {e : Expr} (h : Normal e.nodes) : Normal e.negate.nodes := by
  cases e with
  | not e => exact normal_inner h
  | like | isNull | between | inList | inQuery | existsIn =>
    have inner := normal_inner h
    exact normal_node trivial inner
  | _ => exact normal_node rfl h

theorem negate_negate {e : Expr} (h : e.NormalTop) : e.negate.negate = e := by
  cases e with
  | not e =>
    have free : e.takesNot = false := h
    cases e <;> first | rfl | cases free
  | like negated | isNull negated | between negated | inList negated | inQuery negated
  | existsIn negated => cases negated <;> rfl
  | _ => rfl

end Expr

namespace Predicate

theorem normal_fold {op : LogicalOp} {ps : List Predicate} (h : ∀ p ∈ ps, Normal p.expr.nodes) :
    Normal (fold op ps).expr.nodes := by
  have folded (qs : List Predicate) (hq : ∀ q ∈ qs, Normal q.expr.nodes) (e : Expr)
      (he : Normal e.nodes) : Normal (qs.foldl (fun e q => Expr.combine op e q.expr) e).nodes := by
    induction qs generalizing e with
    | nil => exact he
    | cons q qs ih =>
      obtain ⟨first, others⟩ := List.forall_mem_cons.1 hq
      exact ih others _ (Expr.normal_combine he first)
  cases ps with
  | nil => exact Expr.normal_node (List.forall_mem_nil _) normal_nil
  | cons p ps =>
    obtain ⟨first, others⟩ := List.forall_mem_cons.1 h
    exact folded ps others p.expr first

end Predicate

/-! ## Queries and changes grow -/

namespace CompositeColumn

variable {α : Type}

theorem normal_eq (c : CompositeColumn α) (value : α) : Normal (c.eq value).expr.nodes := by
  refine Predicate.normal_fold fun p hp => ?_
  rw [← List.map_uncurry_zip_eq_zipWith] at hp
  obtain ⟨⟨part, preset⟩, -, rfl⟩ := List.mem_map.1 hp
  exact Expr.normal_node trivial
    (normal_append.2 ⟨Expr.normal_column part, Expr.normal_bind preset⟩)

theorem normal_isNull (c : CompositeColumn α) : Normal c.isNull.expr.nodes := by
  refine Predicate.normal_fold fun p hp => ?_
  obtain ⟨part, -, rfl⟩ := List.mem_map.1 hp
  exact Expr.normal_node trivial (Expr.normal_column part)

end CompositeColumn

theorem Operand.normal_toExpr {t : ValueType} {o : Operand t} (h : Normal o.nodes)
    (d : Descriptor t) : Normal (o.toExpr d).nodes := by
  cases o with
  | expr e nullable => exact h
  | value v => exact Expr.normal_bind _

namespace Select

theorem normal_iff {q : Select} :
    Normal q.nodes ↔ Normal (fromNodes q.source) ∧ Normal (itemNodes q.items)
      ∧ Normal (optionNodes q.filter) ∧ Normal (listNodes q.groupBy)
      ∧ Normal (optionNodes q.having) ∧ Normal (sortNodes q.orderBy) := by
  simp only [nodes_eq, normal_append, and_assoc]

theorem nodes_columnRef (q : Select) (c : ColumnRef) : (q.columnRef c).nodes = q.nodes := by
  rw [columnRef]
  split
  · rw [nodes_eq, nodes_eq, itemNodes_append, itemNodes, itemNodes, List.append_nil]
  · rw [nodes_eq, nodes_eq]

theorem nodes_composite {α : Type} (q : Select) (c : CompositeColumn α) :
    (q.composite c).nodes = q.nodes := by
  rw [composite]
  induction c.parts generalizing q with
  | nil => rfl
  | cons part parts ih => exact (ih _).trans (q.nodes_columnRef part)

theorem nodes_allColumns (q : Select) : q.allColumns.nodes = q.nodes := by
  rw [allColumns]
  split
  · rw [nodes_eq, nodes_eq, itemNodes_append, itemNodes_columns, List.append_nil]
  · rfl

variable {q : Select} {t : ValueType}

theorem normal_fromSource (h : Normal q.nodes) {s : Source} (hs : Normal s.nodes) :
    Normal (q.fromSource s).nodes := by
  obtain ⟨-, others⟩ := normal_iff.1 h
  exact normal_iff.2 ⟨hs, others⟩

theorem normal_project (h : Normal q.nodes) {p : Projection t} (hp : Normal p.expr.nodes) :
    Normal (q.project p).nodes := by
  obtain ⟨source, items, others⟩ := normal_iff.1 h
  refine normal_iff.2 ⟨source, ?_, others⟩
  rw [project, itemNodes_append]
  exact normal_append.2 ⟨items, normal_append.2 ⟨hp, normal_nil⟩⟩

theorem normal_andWhere (h : Normal q.nodes) {p : Predicate} (hp : Normal p.expr.nodes) :
    Normal (q.andWhere p).nodes := by
  obtain ⟨source, items, filter, others⟩ := normal_iff.1 h
  exact normal_iff.2 ⟨source, items, Expr.normal_andAlso filter hp, others⟩

theorem normal_andHaving (h : Normal q.nodes) {p : Predicate} (hp : Normal p.expr.nodes) :
    Normal (q.andHaving p).nodes := by
  obtain ⟨source, items, filter, groups, having, terms⟩ := normal_iff.1 h
  exact normal_iff.2 ⟨source, items, filter, groups, Expr.normal_andAlso having hp, terms⟩

theorem normal_addGroup (h : Normal q.nodes) {o : Operand t} (ho : Normal o.nodes) (k : Kind t) :
    Normal (q.addGroup o k).nodes := by
  obtain ⟨source, items, filter, groups, others⟩ := normal_iff.1 h
  refine normal_iff.2 ⟨source, items, filter, ?_, others⟩
  rw [addGroup, listNodes_append, listNodes_singleton]
  exact normal_append.2 ⟨groups, Operand.normal_toExpr ho _⟩

theorem normal_addOrder (h : Normal q.nodes) {o : Operand t} (ho : Normal o.nodes) (k : Kind t)
    (order : SortOrder) : Normal (q.addOrder o k order).nodes := by
  obtain ⟨source, items, filter, groups, having, terms⟩ := normal_iff.1 h
  refine normal_iff.2 ⟨source, items, filter, groups, having, ?_⟩
  rw [addOrder, sortNodes_append]
  exact normal_append.2 ⟨terms, normal_append.2 ⟨Operand.normal_toExpr ho _, normal_nil⟩⟩

end Select

namespace Compound

variable {q : Compound}

theorem normal_addBranch (h : Normal (Query.compound q).nodes) (operator : SetOperator)
    {r : Select} (hr : Normal r.nodes) :
    Normal (Query.compound (q.addBranch operator r)).nodes := by
  rw [nodes_eq] at h ⊢
  rw [addBranch, branchNodes_append]
  obtain ⟨first, branches⟩ := normal_append.1 h
  exact normal_append.2 ⟨first, normal_append.2 ⟨branches, normal_append.2 ⟨hr, normal_nil⟩⟩⟩

/-- Sorting a compound query is by positions, and leaves its expressions as they are. -/
theorem nodes_addOrder {t : ValueType} (q : Compound) (x : Target t) (order : SortOrder) :
    (Query.compound (q.addOrder x order)).nodes = (Query.compound q).nodes := by
  rw [nodes_eq, nodes_eq, addOrder]
  split <;> rfl

end Compound

theorem Assignments.normal_give {a : Assignments} (h : Normal a.nodes) (t : Table) (c : ColumnRef)
    {e : Expr} (he : Normal e.nodes) : Normal (a.give t c e).nodes := by
  rw [give]
  split
  · exact h
  · split
    · exact h
    · rw [nodes, List.flatMap_append, List.flatMap_singleton]
      exact normal_append.2 ⟨h, he⟩

theorem Insert.normal_setComposite {α : Type} {i : Insert} (h : Normal i.values.nodes)
    (c : CompositeColumn α) (v : α) : Normal (i.setComposite c v).values.nodes := by
  rw [setComposite]
  generalize c.parts.zip (c.presets v) = pairs
  induction pairs generalizing i with
  | nil => exact h
  | cons pair pairs ih => exact ih (Assignments.normal_give h i.table pair.1 (Expr.normal_bind _))

namespace Source

theorem nodes_rename {s r : Source} {id : SetId} {name : String} (h : s.rename id name = .ok r) :
    r.nodes = s.nodes := by
  obtain ⟨⟨⟩, -, h⟩ := exists_of_bind_eq_ok h
  cases s with
  | relation r' =>
    cases h
    rfl
  | _ => cases h

theorem normal_naturalJoin {l r : Source} (hl : Normal l.nodes) (hr : Normal r.nodes) :
    Normal (l.naturalJoin r).nodes := by
  rw [naturalJoin]
  split
  · exact normal_append.2 ⟨normal_append.2 ⟨hl, hr⟩, normal_nil⟩
  · refine normal_append.2 ⟨normal_append.2 ⟨hl, hr⟩, ?_⟩
    refine Predicate.normal_fold fun p hp => ?_
    obtain ⟨⟨l, r⟩, -, rfl⟩ := List.mem_map.1 hp
    exact Expr.normal_node trivial
      (normal_append.2 ⟨Expr.normal_column l, Expr.normal_column r⟩)

end Source

/-! ## Calls -/

/-- **Whatever the calls, what they give is in normal form.** -/
theorem SameCalls.normal {f : Form} {x y : f.Thing} (h : SameCalls f x y) : Normal (f.nodes x) := by
  induction h with
  -- Without expressions, or with those of what was given.
  | column | param | table | value | rowCount | resolve | columnParam | columnTarget
  | projectionTarget | token | noOperand | noPredicate | empty | insertInto | updateOf
  | deleteAll => exact normal_nil
  | ofExpression _ ih | toPredicate _ ih | ofSelect _ ih | ofCompound _ ih | onConflict _ _ ih
  | query _ ih | insert _ ih | update _ ih | delete _ ih | ofQuery _ _ ih => exact ih
  | label id name _ labelled _ ih =>
    obtain ⟨⟨⟩, -, h⟩ := exists_of_bind_eq_ok labelled
    cases h
    exact ih
  -- Expressions.
  | ofColumn | ofParam | ofProjection | countAll => exact Expr.normal_node trivial normal_nil
  | cast k _ ihe => exact Expr.normal_node trivial ihe
  | count _ _ ihe | aggregate _ _ ihe | avg _ ihe | mapped _ _ ihe | length _ ihe =>
    exact Expr.normal_node trivial (normal_append.2 ⟨ihe, normal_nil⟩)
  | binary op _ _ ihe iho =>
    exact Expr.normal_node trivial (normal_append.2 ⟨ihe, Operand.normal_toExpr iho _⟩)
  | coalesce _ _ ihe iho =>
    refine Expr.normal_node trivial (normal_append.2 ⟨ihe, normal_append.2 ⟨?_, normal_nil⟩⟩)
    exact Operand.normal_toExpr iho _
  | scalar _ _ ihq => exact Expr.normal_node trivial ihq
  | moreOperands _ _ iho ihos => exact normal_append.2 ⟨iho, ihos⟩
  -- Conditions.
  | compare op _ _ ihe iho =>
    exact Expr.normal_node trivial (normal_append.2 ⟨ihe, Operand.normal_toExpr iho _⟩)
  | isNull negated _ ihe => exact Expr.normal_node trivial ihe
  | between negated _ _ _ ihe ihl ihh =>
    refine Expr.normal_node trivial (normal_append.2 ⟨normal_append.2 ⟨ihe, ?_⟩, ?_⟩)
    · exact Operand.normal_toExpr ihl _
    · exact Operand.normal_toExpr ihh _
  | inList negated _ _ ihe ihos =>
    refine Expr.normal_node trivial (normal_append.2 ⟨ihe, ?_⟩)
    rw [listNodes_eq_flatMap, List.flatMap_map, normal_flatMap]
    exact fun o ho => Operand.normal_toExpr (normal_flatMap.1 ihos o ho) _
  | inQuery negated _ _ ihe ihq => exact Expr.normal_node trivial (normal_append.2 ⟨ihe, ihq⟩)
  | like negated _ _ ihe iho =>
    refine Expr.normal_node trivial (normal_append.2 ⟨normal_append.2 ⟨ihe, ?_⟩, normal_nil⟩)
    exact Operand.normal_toExpr iho _
  | likeEscape escape _ _ _ ihe iho =>
    refine Expr.normal_node trivial (normal_append.2 ⟨normal_append.2 ⟨ihe, ?_⟩, ?_⟩)
    · exact Operand.normal_toExpr iho _
    · exact Expr.normal_bind _
  | existsIn negated _ ihq => exact Expr.normal_node trivial ihq
  | compositeEq c v => exact c.normal_eq v
  | compositeIsNull c => exact c.normal_isNull
  | and _ _ ihp ihr | or _ _ ihp ihr => exact Expr.normal_combine ihp ihr
  | not _ ih => exact Expr.normal_negate ih
  | morePredicates _ _ ihp ihps => exact normal_append.2 ⟨ihp, ihps⟩
  | all _ ih | any _ ih => exact Predicate.normal_fold (normal_flatMap.1 ih)
  -- Sources.
  | rename id name _ renamed _ ih =>
    rw [Form.nodes, Source.nodes_rename renamed]
    exact ih
  | joinOn kind _ _ _ ihl ihr ihp => exact normal_append.2 ⟨normal_append.2 ⟨ihl, ihr⟩, ihp⟩
  | join kind _ _ ihl ihr => exact normal_append.2 ⟨normal_append.2 ⟨ihl, ihr⟩, normal_nil⟩
  | naturalJoin _ _ ihl ihr => exact Source.normal_naturalJoin ihl ihr
  | view id name _ defined _ ih =>
    rw [defineView_eq_ok defined]
    exact ih
  -- Queries.
  | selectColumn _ _ ihq =>
    rw [Form.nodes, Select.column, Select.nodes_columnRef]
    exact ihq
  | composite c _ ihq =>
    rw [Form.nodes, Select.nodes_composite]
    exact ihq
  | allColumns _ ihq =>
    rw [Form.nodes, Select.nodes_allColumns]
    exact ihq
  | selectDistinct _ ihq | limit _ _ ihq | offset _ _ ihq =>
    have clauses := Select.normal_iff.1 ihq
    exact Select.normal_iff.2 clauses
  | fromSource _ _ ihq ihs => exact Select.normal_fromSource ihq ihs
  | project _ _ ihq ihp => exact Select.normal_project ihq ihp
  | andWhere _ _ ihq ihp => exact Select.normal_andWhere ihq ihp
  | andHaving _ _ ihq ihp => exact Select.normal_andHaving ihq ihp
  | addGroup k _ _ ihq iho => exact Select.normal_addGroup ihq iho k
  | addOrder k order _ _ ihq iho => exact Select.normal_addOrder ihq iho k order
  | combine operator _ _ ihq ihr =>
    exact normal_append.2 ⟨ihq, normal_append.2 ⟨ihr, normal_nil⟩⟩
  | addBranch operator _ _ ihq ihr => exact Compound.normal_addBranch ihq operator ihr
  | compoundOrder order _ _ ihq =>
    rw [Form.nodes, Compound.nodes_addOrder]
    exact ihq
  | compoundLimit _ _ ihq | compoundOffset _ _ ihq =>
    rw [Form.nodes, Compound.nodes_eq] at ihq ⊢
    exact ihq
  -- Changes.
  | insertSet _ _ _ ihi _ iho => exact Assignments.normal_give ihi _ _ (Operand.normal_toExpr iho _)
  | insertBlank _ _ ihi => exact Assignments.normal_give ihi _ _ (Expr.normal_bind _)
  | insertComposite c v _ _ ihi => exact Insert.normal_setComposite ihi c v
  | draftSet _ _ _ ihu _ iho =>
    have nothing : Normal ({} : Assignments).nodes := normal_nil
    exact normal_append.2
      ⟨Assignments.normal_give nothing _ _ (Operand.normal_toExpr iho _), ihu⟩
  | updateSet _ _ _ ihu _ iho =>
    obtain ⟨given, filter⟩ := normal_append.1 ihu
    exact normal_append.2
      ⟨Assignments.normal_give given _ _ (Operand.normal_toExpr iho _), filter⟩
  | updateWhere _ _ ihu ihp =>
    obtain ⟨given, filter⟩ := normal_append.1 ihu
    exact normal_append.2 ⟨given, Expr.normal_andAlso filter ihp⟩
  | draftWhere _ _ ih ihp | deleteAndWhere _ _ ih ihp => exact Expr.normal_andAlso ih ihp
  | deleteWhere t _ ihp => exact ihp

/-- Calls give the thing; the run beside it may be the same. -/
def Called (f : Form) (x : f.Thing) : Prop := ∃ y, SameCalls f x y

/-- **Everything in what calls give is in normal form, and negating twice changes nothing.** -/
theorem Called.normal_form :
    (∀ (f : Form) (x : f.Thing), Called f x → ∀ e ∈ f.nodes x, e.NormalTop)
      ∧ ∀ p : Predicate, Called .predicate p → p.not.not = p := by
  refine ⟨fun f x ⟨_, calls⟩ => calls.normal, fun p ⟨_, calls⟩ => ?_⟩
  exact congrArg Predicate.mk (Expr.negate_negate (Expr.normalTop_of_normal calls.normal))

/-! ### Tracks of which some have no size -/

def sizeless : Predicate := (Assignments.trackColumn "size").toExpression.isNull false

/-- It is not so that the track has a size and some track has none. -/
def sizelessAlike : Predicate :=
  (sizeless.not.and (.existsIn false
    ((Select.empty.fromSource (.relation (.table Assignments.track))).andWhere sizeless))).not

theorem normal_form_of_sizelessAlike :
    Called .predicate sizelessAlike
      ∧ sizelessAlike.expr.nodes.length = 7
      ∧ (∀ e ∈ sizelessAlike.expr.nodes, e.NormalTop)
      ∧ sizelessAlike.not.not = sizelessAlike := by
  have missing : SameCalls .predicate sizeless sizeless := .isNull false (.ofColumn (.column _))
  have called : Called .predicate sizelessAlike :=
    ⟨sizelessAlike, .not (.and (.not missing)
      (.existsIn false (.andWhere (.fromSource .empty (.table Assignments.track)) missing)))⟩
  exact ⟨called, by decide, Called.normal_form.1 _ _ called, Called.normal_form.2 _ called⟩

/-- An AND in an AND is not in normal form, though it might be built without the calls. -/
example : ¬ Normal (Expr.logical .and [.logical .and []]).nodes :=
  fun h => absurd (Expr.normalTop_of_normal h _ List.mem_cons_self) (by decide)

end TypedSql
