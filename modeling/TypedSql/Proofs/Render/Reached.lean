import Mathlib.Logic.Relation
import TypedSql.Proofs.Render.Parts

/-!
# What rendering reaches

Rendering goes from a statement to the queries, sources and expressions written in it, at any depth,
and hands down the query levels around them. Each node leads to the nodes written directly inside
it; the operands of a test for membership in an empty list are not written, nor is the query of a
view.

**Definition (`Statement.Faultless`).** What has to hold of the nodes reached so that the statement
can be built: queries, compounds, joins and an UPDATE noted no mistake, every query has a result
column and no label that repeats the name of an earlier one, every column of an expression belongs
to a query level around it, and every preset value can be stored in its slot.

**Theorem (`Node.size_lt_of_mem_children`).** The way down ends: a node is larger than the nodes
directly inside.

**Theorem (`Statement.faultless_iff`).** Each of these conditions is about one node by itself
(`Node.Faultless`), except for what an UPDATE noted: inside a query or a change there is always a
level around an expression.
-/

namespace TypedSql

/-! ## Nodes -/

/-- A place that rendering comes to, with the query levels around it, the innermost first. -/
inductive Node where
  | expr (levels : List Level) (e : Expr)
  | bind (p : Placeholder)
  | select (outer : List Level) (q : Select)
  | query (outer : List Level) (q : Query)
  | source (levels : List Level) (s : Source)

namespace Expr

/-- The expressions written directly inside. -/
def operands : Expr → List Expr
  | .column _ | .label _ | .bind _ | .countRows | .existsIn _ _ | .scalar _ => []
  | .compare _ lhs rhs | .binary _ lhs rhs => [lhs, rhs]
  | .like _ e pattern escape => e :: pattern :: escape.toList
  | .isNull _ e | .not e | .cast e _ | .inQuery _ e _ => [e]
  | .between _ e low high => [e, low, high]
  | .inList _ _ [] => []
  | .inList _ e (item :: items) => e :: item :: items
  | .logical _ operands => operands
  | .call _ _ args => args

/-- The query written directly inside. -/
def query? : Expr → Option Select
  | .inQuery _ _ query | .existsIn _ query | .scalar query => some query
  | _ => none

def placeholder? : Expr → Option Placeholder
  | .bind p => some p
  | _ => none

end Expr

def ResultItem.expr? : ResultItem → Option Expr
  | .column _ => none
  | .labelled _ e _ => some e

namespace Select

/-- The expressions of the clauses. -/
def exprs (q : Select) : List Expr :=
  q.items.filterMap ResultItem.expr? ++ q.filter.toList ++ q.groupBy ++ q.having.toList
    ++ q.orderBy.map SortTerm.e

/-- The placeholders of LIMIT and OFFSET. -/
def bounds (q : Select) : List Placeholder := q.limit.toList ++ q.offset.toList

end Select

def Compound.bounds (q : Compound) : List Placeholder := q.limit.toList ++ q.offset.toList

namespace Node

/-- The nodes written directly inside. What a query holds has the query's source as its innermost
level. -/
def children : Node → List Node
  | .expr levels e =>
    e.operands.map (.expr levels) ++ e.query?.toList.map (.select levels)
      ++ e.placeholder?.toList.map .bind
  | .bind _ => []
  | .select outer q =>
    q.source.toList.map (.source (q.source :: outer)) ++ q.exprs.map (.expr (q.source :: outer))
      ++ q.bounds.map .bind
  | .query outer (.select q) => [.select outer q]
  | .query outer (.compound q) => q.queries.map (.select outer) ++ q.bounds.map .bind
  | .source levels (.relation (.subquery _ q)) => [.query levels q]
  | .source _ (.relation _) => []
  | .source levels (.alias _ _ r) => [.source levels (.relation r)]
  | .source levels (.join _ lhs rhs on) =>
    .source levels lhs :: .source levels rhs :: on.toList.map (.expr levels)

/-- Rendering comes from the one node to the other. -/
def Reaches : Node → Node → Prop := Relation.ReflTransGen fun n m => m ∈ n.children

end Node

/-- Where the rendering of a statement starts. The table that is changed is the outermost level. -/
def Statement.roots : Statement → List Node
  | .query q => [.query [] q]
  | .insert i => i.values.pairs.map fun (_, e) => .expr [] e
  | .update u =>
    (u.assignments.pairs.map fun (_, e) => .expr [u.table.level] e)
      ++ u.filter.toList.map (.expr [u.table.level])
  | .delete d => d.filter.toList.map (.expr [d.table.level])

def Statement.Reaches (s : Statement) (n : Node) : Prop := ∃ root ∈ s.roots, root.Reaches n

/-! ## The way down -/

section Total

variable {α : Type} [SizeOf α]

/-- The size of the trees together. -/
def total : List α → Nat
  | [] => 0
  | x :: xs => sizeOf x + total xs

@[simp] theorem total_nil : total ([] : List α) = 0 := rfl

@[simp] theorem total_cons (x : α) (xs : List α) : total (x :: xs) = sizeOf x + total xs := rfl

@[simp] theorem total_append (xs ys : List α) : total (xs ++ ys) = total xs + total ys := by
  induction xs with
  | nil => exact (Nat.zero_add _).symm
  | cons x xs ih => rw [List.cons_append, total_cons, total_cons, ih, Nat.add_assoc]

theorem sizeOf_le_total {x : α} {xs : List α} (h : x ∈ xs) : sizeOf x ≤ total xs := by
  induction xs with
  | nil => cases h
  | cons y ys ih =>
    rw [total_cons]
    rcases List.mem_cons.1 h with rfl | later
    · exact Nat.le_add_right _ _
    · exact Nat.le_add_left_of_le (ih later)

theorem total_map_le {β : Type} [SizeOf β] {f : β → α} (small : ∀ y, sizeOf (f y) ≤ sizeOf y)
    (ys : List β) : total (ys.map f) ≤ sizeOf ys := by
  induction ys with
  | nil => exact Nat.zero_le _
  | cons y ys ih =>
    have := small y
    rw [List.map_cons, total_cons, List.cons.sizeOf_spec]
    omega

theorem total_le (xs : List α) : total xs ≤ sizeOf xs := by
  simpa using total_map_le (f := id) (fun x : α => Nat.le_refl _) xs

theorem total_toList_le (x : Option α) : total x.toList ≤ sizeOf x := by
  cases x with
  | none => exact Nat.zero_le _
  | some x =>
    rw [Option.toList_some, total_cons, total_nil, Option.some.sizeOf_spec]
    omega

end Total

theorem total_items_le (items : List ResultItem) :
    total (items.filterMap ResultItem.expr?) ≤ sizeOf items := by
  induction items with
  | nil => exact Nat.zero_le _
  | cons item items ih =>
    cases item with
    | column c =>
      rw [List.filterMap_cons_none rfl, List.cons.sizeOf_spec]
      omega
    | labelled key e type =>
      have some_expr : (ResultItem.labelled key e type).expr? = some e := rfl
      rw [List.filterMap_cons_some some_expr, total_cons, List.cons.sizeOf_spec,
        ResultItem.labelled.sizeOf_spec]
      omega

theorem SortTerm.sizeOf_e_le (t : SortTerm) : sizeOf t.e ≤ sizeOf t := by
  cases t
  simp +arith

theorem Branch.sizeOf_query_le (b : Branch) : sizeOf b.query ≤ sizeOf b := by
  cases b
  simp +arith

theorem Expr.total_lt (e : Expr) :
    total e.operands + total e.query?.toList + total e.placeholder?.toList < sizeOf e := by
  cases e with
  | inList negated e items =>
    cases items with
    | nil => simp [operands, query?, placeholder?]
    | cons item items =>
      have := total_le items
      simp [operands, query?, placeholder?]
      omega
  | logical op es =>
    have := total_le es
    simp [operands, query?, placeholder?]
    omega
  | call f distinct args =>
    have := total_le args
    simp [operands, query?, placeholder?]
    omega
  | like negated e pattern escape =>
    have := total_toList_le escape
    simp [operands, query?, placeholder?]
    omega
  | _ =>
    simp [operands, query?, placeholder?]
    try omega

theorem Select.total_lt (q : Select) :
    total q.source.toList + total q.exprs + total q.bounds < sizeOf q := by
  obtain ⟨source, distinct, items, filter, groupBy, having, orderBy, limit, offset, errors⟩ := q
  have read := total_toList_le source
  have listed := total_items_le items
  have conditions := And.intro (total_toList_le filter) (total_toList_le having)
  have grouped := total_le groupBy
  have sorted : total (orderBy.map SortTerm.e) ≤ sizeOf orderBy :=
    total_map_le SortTerm.sizeOf_e_le orderBy
  have bound := And.intro (total_toList_le limit) (total_toList_le offset)
  simp only [exprs, bounds, total_append, Select.mk.sizeOf_spec]
  omega

theorem Compound.total_lt (q : Compound) : total q.queries + total q.bounds < sizeOf q := by
  obtain ⟨first, branches, orderBy, limit, offset, errors⟩ := q
  have combined : total (branches.map Branch.query) ≤ sizeOf branches :=
    total_map_le Branch.sizeOf_query_le branches
  have bound := And.intro (total_toList_le limit) (total_toList_le offset)
  simp only [queries, bounds, total_append, total_cons, Compound.mk.sizeOf_spec]
  omega

namespace Node

/-- The size of the tree; the levels around it do not count. -/
noncomputable def size : Node → Nat
  | .expr _ e => sizeOf e
  | .bind p => sizeOf p
  | .select _ q => sizeOf q
  | .query _ q => sizeOf q
  | .source _ s => sizeOf s

/-- **Rendering goes down.** -/
theorem size_lt_of_mem_children {n m : Node} (h : m ∈ n.children) : m.size < n.size := by
  cases n with
  | expr levels e =>
    have small := e.total_lt
    simp only [children, List.mem_append, List.mem_map] at h
    rcases h with (⟨f, hf, rfl⟩ | ⟨q, hq, rfl⟩) | ⟨p, hp, rfl⟩
    · exact Nat.lt_of_le_of_lt (sizeOf_le_total hf) (by rw [size]; omega)
    · exact Nat.lt_of_le_of_lt (sizeOf_le_total hq) (by rw [size]; omega)
    · exact Nat.lt_of_le_of_lt (sizeOf_le_total hp) (by rw [size]; omega)
  | bind p => cases h
  | select outer q =>
    have small := q.total_lt
    simp only [children, List.mem_append, List.mem_map] at h
    rcases h with (⟨s, hs, rfl⟩ | ⟨e, he, rfl⟩) | ⟨p, hp, rfl⟩
    · exact Nat.lt_of_le_of_lt (sizeOf_le_total hs) (by rw [size]; omega)
    · exact Nat.lt_of_le_of_lt (sizeOf_le_total he) (by rw [size]; omega)
    · exact Nat.lt_of_le_of_lt (sizeOf_le_total hp) (by rw [size]; omega)
  | query outer q =>
    cases q with
    | select q =>
      rw [List.mem_singleton.1 h, size, size, Query.select.sizeOf_spec]
      omega
    | compound q =>
      have small := q.total_lt
      have whole : (query outer (.compound q)).size = 1 + sizeOf q := Query.compound.sizeOf_spec q
      simp only [children, List.mem_append, List.mem_map] at h
      rcases h with ⟨t, ht, rfl⟩ | ⟨p, hp, rfl⟩
      · exact Nat.lt_of_le_of_lt (sizeOf_le_total ht) (by omega)
      · exact Nat.lt_of_le_of_lt (sizeOf_le_total hp) (by omega)
  | source levels s =>
    cases s with
    | relation r =>
      cases r with
      | table t => cases h
      | view id name q => cases h
      | subquery id q =>
        rw [List.mem_singleton.1 h, size, size, Source.relation.sizeOf_spec,
          Relation.subquery.sizeOf_spec]
        omega
    | «alias» id name r =>
      obtain ⟨i⟩ := id
      rw [List.mem_singleton.1 h, size, size, Source.relation.sizeOf_spec,
        Source.alias.sizeOf_spec, SetId.mk.sizeOf_spec]
      omega
    | join kind lhs rhs on =>
      have small := total_toList_le on
      have whole : (source levels (.join kind lhs rhs on)).size
          = 1 + sizeOf kind + sizeOf lhs + sizeOf rhs + sizeOf on :=
        Source.join.sizeOf_spec kind lhs rhs on
      simp only [children, List.mem_cons, List.mem_map] at h
      rcases h with rfl | rfl | ⟨e, he, rfl⟩
      · rw [whole, size]
        omega
      · rw [whole, size]
        omega
      · exact Nat.lt_of_le_of_lt (sizeOf_le_total he) (by omega)

end Node

/-! ## Statements without mistakes -/

/-- The column belongs to the source of a level. -/
def Visible (levels : List Level) (c : ColumnRef) : Prop :=
  ∃ s : Source, some s ∈ levels ∧ ∃ own ∈ s.columns, own.key = c.key

/-- A preset value was encoded, and is not NULL where the slot is not nullable. -/
def Placeholder.Storable : Placeholder → Prop
  | .preset type value => ∃ v, value = .ok v ∧ (v.isNull = true → type.nullable = true)
  | _ => True

/-- No label is the name of an earlier result column. -/
def Select.LabelsNew (q : Select) : Prop :=
  ∀ (i : Nat) (key : ColumnKey) (type : AnyDescriptor), q.entries[i]? = some (.labelled key type) →
    ∀ c ∈ q.resultColumns.take i, c.name ≠ key.name

/-- No mistake was noted, and none is found in what rendering reaches. -/
structure Statement.Faultless (s : Statement) : Prop where
  update : ∀ u, s = .update u → u.assignments.errors = []
  select : ∀ outer q, s.Reaches (.select outer q) →
    q.errors = [] ∧ q.entries ≠ [] ∧ q.LabelsNew
  compound : ∀ outer q, s.Reaches (.query outer (.compound q)) → q.errors = []
  join : ∀ levels kind lhs rhs on, s.Reaches (.source levels (.join kind lhs rhs on)) →
    joinErrors lhs rhs kind on = []
  column : ∀ levels c, s.Reaches (.expr levels (.column c)) → Visible levels c
  preset : ∀ p, s.Reaches (.bind p) → p.Storable

/-! ## One node at a time -/

namespace Node

/-- What has to hold of the node by itself. Outside all queries every column passes. -/
def Faultless : Node → Prop
  | .expr levels (.column c) => levels = [] ∨ Visible levels c
  | .expr _ _ => True
  | .bind p => p.Storable
  | .select _ q => q.errors = [] ∧ q.entries ≠ [] ∧ q.LabelsNew
  | .query _ (.compound q) => q.errors = []
  | .query _ (.select _) => True
  | .source _ (.join kind lhs rhs on) => joinErrors lhs rhs kind on = []
  | .source _ _ => True

/-- There is a level around expressions and sources. -/
def Inside : Node → Prop
  | .expr levels _ | .source levels _ => levels ≠ []
  | .bind _ | .select _ _ | .query _ _ => True

theorem inside_of_mem_children {n m : Node} (inside : n.Inside) (h : m ∈ n.children) :
    m.Inside := by
  cases n with
  | expr levels e =>
    simp only [children, List.mem_append, List.mem_map] at h
    rcases h with (⟨f, -, rfl⟩ | ⟨q, -, rfl⟩) | ⟨p, -, rfl⟩
    · exact inside
    · trivial
    · trivial
  | bind p => cases h
  | select outer q =>
    simp only [children, List.mem_append, List.mem_map] at h
    rcases h with (⟨s, -, rfl⟩ | ⟨e, -, rfl⟩) | ⟨p, -, rfl⟩
    · exact List.cons_ne_nil _ _
    · exact List.cons_ne_nil _ _
    · trivial
  | query outer q =>
    cases q with
    | select q =>
      rw [List.mem_singleton.1 h]
      trivial
    | compound q =>
      simp only [children, List.mem_append, List.mem_map] at h
      rcases h with ⟨q, -, rfl⟩ | ⟨p, -, rfl⟩ <;> trivial
  | source levels s =>
    cases s with
    | relation r =>
      cases r with
      | table t => cases h
      | view id name q => cases h
      | subquery id q =>
        rw [List.mem_singleton.1 h]
        trivial
    | «alias» id name r =>
      rw [List.mem_singleton.1 h]
      exact inside
    | join kind lhs rhs on =>
      simp only [children, List.mem_cons, List.mem_map] at h
      rcases h with rfl | rfl | ⟨e, -, rfl⟩
      · exact inside
      · exact inside
      · exact inside

theorem Reaches.inside {n m : Node} (h : n.Reaches m) (inside : n.Inside) : m.Inside := by
  induction h with
  | refl => exact inside
  | tail _ child ih => exact inside_of_mem_children ih child

end Node

namespace Statement

variable {s : Statement}

theorem inside_of_mem_roots (change : ∀ i, s ≠ .insert i) {root : Node} (h : root ∈ s.roots) :
    root.Inside := by
  cases s with
  | query q =>
    rw [List.mem_singleton.1 h]
    trivial
  | insert i => exact absurd rfl (change i)
  | update u =>
    simp only [roots, List.mem_append, List.mem_map] at h
    rcases h with ⟨pair, -, rfl⟩ | ⟨e, -, rfl⟩ <;> exact List.cons_ne_nil _ _
  | delete d =>
    obtain ⟨e, -, rfl⟩ := List.mem_map.1 h
    exact List.cons_ne_nil _ _

/-- **The statement is faultless node by node.** -/
theorem faultless_iff (change : ∀ i, s ≠ .insert i) :
    s.Faultless
      ↔ (∀ u, s = .update u → u.assignments.errors = []) ∧ ∀ n, s.Reaches n → n.Faultless := by
  constructor
  · intro h
    refine ⟨h.update, fun n reached => ?_⟩
    unfold Node.Faultless
    split
    · exact .inr (h.column _ _ reached)
    · trivial
    · exact h.preset _ reached
    · exact h.select _ _ reached
    · exact h.compound _ _ reached
    · trivial
    · exact h.join _ _ _ _ _ reached
    · trivial
  · rintro ⟨update, nodes⟩
    refine ⟨update, fun outer q => nodes _, fun outer q => nodes _,
      fun levels kind lhs rhs on => nodes _, fun levels c reached => ?_, fun p => nodes _⟩
    obtain ⟨root, hroot, path⟩ := reached
    have inside := path.inside (inside_of_mem_roots change hroot)
    exact (nodes _ ⟨root, hroot, path⟩).resolve_left inside

end Statement
end TypedSql
