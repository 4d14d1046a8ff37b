import TypedSql.Query.Statement

/-!
# Other placeholders in the same places

A substitution puts another placeholder in the place of each placeholder of a tree. The tree keeps
its shape, its names and its columns; what sources expose, what a query selects and what a join
condition gets wrong are the same after the substitution.
-/

namespace TypedSql

section

variable (σ : Placeholder → Placeholder)

/-! ## Trees -/

mutual

/-- The expression with its placeholders substituted, in nested queries too. -/
def Expr.subst : Expr → Expr
  | .column c => .column c
  | .label name => .label name
  | .bind p => .bind (σ p)
  | .compare op lhs rhs => .compare op lhs.subst rhs.subst
  | .like negated e pattern escape => .like negated e.subst pattern.subst (optionSubst escape)
  | .isNull negated e => .isNull negated e.subst
  | .between negated e low high => .between negated e.subst low.subst high.subst
  | .inList negated e items => .inList negated e.subst (listSubst items)
  | .inQuery negated e query => .inQuery negated e.subst query.subst
  | .existsIn negated query => .existsIn negated query.subst
  | .logical op operands => .logical op (listSubst operands)
  | .not e => .not e.subst
  | .binary op lhs rhs => .binary op lhs.subst rhs.subst
  | .call f distinct args => .call f distinct (listSubst args)
  | .countRows => .countRows
  | .cast e type => .cast e.subst type
  | .scalar query => .scalar query.subst

def listSubst : List Expr → List Expr
  | [] => []
  | e :: rest => e.subst :: listSubst rest

def optionSubst : Option Expr → Option Expr
  | none => none
  | some e => some e.subst

def itemSubst : List ResultItem → List ResultItem
  | [] => []
  | .column c :: rest => .column c :: itemSubst rest
  | .labelled key e type :: rest => .labelled key e.subst type :: itemSubst rest

def sortSubst : List SortTerm → List SortTerm
  | [] => []
  | ⟨e, order⟩ :: rest => ⟨e.subst, order⟩ :: sortSubst rest

def Select.subst : Select → Select
  | ⟨source, distinct, items, filter, groupBy, having, orderBy, limit, offset, errors⟩ =>
    ⟨sourceSubst source, distinct, itemSubst items, optionSubst filter, listSubst groupBy,
      optionSubst having, sortSubst orderBy, limit.map σ, offset.map σ, errors⟩

def sourceSubst : Option Source → Option Source
  | none => none
  | some s => some s.subst

def branchSubst : List Branch → List Branch
  | [] => []
  | ⟨operator, query⟩ :: rest => ⟨operator, query.subst⟩ :: branchSubst rest

def Query.subst : Query → Query
  | .select q => .select q.subst
  | .compound ⟨first, branches, orderBy, limit, offset, errors⟩ =>
    .compound ⟨first.subst, branchSubst branches, orderBy, limit.map σ, offset.map σ, errors⟩

def Relation.subst : Relation → Relation
  | .table t => .table t
  | .view id name q => .view id name q.subst
  | .subquery id q => .subquery id q.subst

def Source.subst : Source → Source
  | .relation r => .relation r.subst
  | .alias id name r => .alias id name r.subst
  | .join kind lhs rhs on => .join kind lhs.subst rhs.subst (optionSubst on)

end

/-! ### Lists and options -/

theorem listSubst_eq (es : List Expr) : listSubst σ es = es.map (Expr.subst σ) := by
  induction es with
  | nil => rfl
  | cons e rest ih => rw [listSubst, ih, List.map_cons]

theorem optionSubst_eq (e : Option Expr) : optionSubst σ e = e.map (Expr.subst σ) := by
  cases e <;> rfl

theorem sourceSubst_eq (s : Option Source) : sourceSubst σ s = s.map (Source.subst σ) := by
  cases s <;> rfl

/-- An entry of a select list with its placeholders substituted. -/
def ResultItem.subst : ResultItem → ResultItem
  | .column c => .column c
  | .labelled key e type => .labelled key (e.subst σ) type

theorem itemSubst_eq (items : List ResultItem) :
    itemSubst σ items = items.map (ResultItem.subst σ) := by
  induction items with
  | nil => rfl
  | cons item rest ih => cases item <;> rw [itemSubst, ih, List.map_cons, ResultItem.subst]

@[simp] theorem ResultItem.entry_subst (item : ResultItem) : (item.subst σ).entry = item.entry := by
  cases item <;> rfl

/-! ## Columns -/

mutual

theorem Select.entries_subst : (q : Select) → (q.subst σ).entries = q.entries
  | ⟨source, _, items, _, _, _, _, _, _, _⟩ => by
    cases items with
    | nil =>
      cases source with
      | none => rfl
      | some s => simp only [Select.subst, sourceSubst, itemSubst, Select.entries, s.columns_subst]
    | cons item rest =>
      simp only [Select.subst, itemSubst_eq, List.map_cons, Select.entries, List.map_map]
      refine List.cons_eq_cons.2 ⟨item.entry_subst σ, ?_⟩
      exact List.map_congr_left fun item _ => item.entry_subst σ

theorem Query.entries_subst : (q : Query) → (q.subst σ).entries = q.entries
  | .select q => q.entries_subst
  | .compound ⟨first, _, _, _, _, _⟩ => first.entries_subst

theorem Relation.columns_subst : (r : Relation) → (r.subst σ).columns = r.columns
  | .table t => rfl
  | .view id name q => by simp only [Relation.subst, Relation.columns, q.entries_subst]
  | .subquery id q => by simp only [Relation.subst, Relation.columns, q.entries_subst]

theorem Source.columns_subst : (s : Source) → (s.subst σ).columns = s.columns
  | .relation r => r.columns_subst
  | .alias id name r => by simp only [Source.subst, Source.columns, r.columns_subst]
  | .join _ lhs rhs _ => by
    simp only [Source.subst, Source.columns, lhs.columns_subst, rhs.columns_subst]

end

theorem Query.resultColumns_subst (q : Query) : (q.subst σ).resultColumns = q.resultColumns := by
  simp only [Query.resultColumns, q.entries_subst]

theorem Relation.name_subst (r : Relation) : (r.subst σ).name = r.name := by
  cases r <;> rfl

theorem Source.name_subst (s : Source) : (s.subst σ).name = s.name := by
  induction s using Source.name.induct with
  | case1 r => exact r.name_subst σ
  | case2 id name r => rfl
  | case3 kind lhs rhs on ihl ihr => simp only [Source.subst, Source.name, ihl, ihr]

theorem Source.isJoin_subst (s : Source) : (s.subst σ).isJoin = s.isJoin := by
  cases s <;> rfl

mutual

theorem Expr.columns_subst : (e : Expr) → (e.subst σ).columns = e.columns
  | .column c => rfl
  | .label _ | .bind _ | .countRows | .existsIn _ _ | .scalar _ => rfl
  | .compare _ lhs rhs | .binary _ lhs rhs => by
    simp only [Expr.subst, Expr.columns, lhs.columns_subst, rhs.columns_subst]
  | .like _ e pattern escape => by
    simp only [Expr.subst, Expr.columns, e.columns_subst, pattern.columns_subst,
      optionColumns_subst escape]
  | .isNull _ e | .inQuery _ e _ | .not e | .cast e _ => by
    simp only [Expr.subst, Expr.columns, e.columns_subst]
  | .between _ e low high => by
    simp only [Expr.subst, Expr.columns, e.columns_subst, low.columns_subst, high.columns_subst]
  | .inList _ e items => by
    simp only [Expr.subst, Expr.columns, e.columns_subst, listColumns_subst items]
  | .logical _ es | .call _ _ es => by
    simp only [Expr.subst, Expr.columns, listColumns_subst es]

theorem optionColumns_subst : (e : Option Expr) → optionColumns (optionSubst σ e) = optionColumns e
  | none => rfl
  | some e => e.columns_subst

theorem listColumns_subst : (es : List Expr) → listColumns (listSubst σ es) = listColumns es
  | [] => rfl
  | e :: rest => by simp only [listSubst, listColumns, e.columns_subst, listColumns_subst rest]

end

/-- A join condition has the same mistakes. -/
theorem joinErrors_subst (lhs rhs : Source) (kind : JoinKind) (on : Option Expr) :
    joinErrors (lhs.subst σ) (rhs.subst σ) kind (optionSubst σ on)
      = joinErrors lhs rhs kind on := by
  simp only [joinErrors, optionColumns_subst, Source.columns_subst, Source.name,
    Source.name_subst]

/-! ## Statements -/

def Assignments.subst (a : Assignments) : Assignments where
  pairs := a.pairs.map fun (c, e) => (c, e.subst σ)
  errors := a.errors

theorem Assignments.touched_subst (a : Assignments) : (a.subst σ).touched = a.touched := by
  simp [touched, subst]

def Insert.subst (i : Insert) : Insert := { i with values := i.values.subst σ }

def Update.subst (u : Update) : Update where
  table := u.table
  assignments := u.assignments.subst σ
  filter := u.filter.map (Expr.subst σ)
  touched := (u.assignments.touched_subst σ).trans u.touched

def Delete.subst (d : Delete) : Delete := { d with filter := d.filter.map (Expr.subst σ) }

/-- The statement with its placeholders substituted, wherever they are written. -/
def Statement.subst : Statement → Statement
  | .query q => .query (q.subst σ)
  | .insert i => .insert (i.subst σ)
  | .update u => .update (u.subst σ)
  | .delete d => .delete (d.subst σ)

theorem Statement.resultColumns_subst (s : Statement) :
    (s.subst σ).resultColumns = s.resultColumns := by
  cases s with
  | query q => exact q.resultColumns_subst σ
  | _ => rfl

end

end TypedSql
