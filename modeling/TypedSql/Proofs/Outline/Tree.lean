import TypedSql.Proofs.Render.StatementPieces

/-!
# Outlines

The outline of a tree is what is left of it without its plain values. The value of a placeholder is
forgotten, and with it whatever a value can decide: an expression is nullable or not depending on
the values in it, and so are the result columns made from it and the columns of the sets made from
those. Everything else stays: names, identities, kinds, the shape of every clause and the mistakes
made in putting it together.

The outline is a tree of the same type, so that it has columns, result names and a text of its own.
-/

namespace TypedSql

/-! ## Leaves -/

/-- The description with its nullability forgotten. -/
def AnyDescriptor.outline (d : AnyDescriptor) : AnyDescriptor :=
  ⟨d.type, d.descriptor.withNullable true⟩

@[simp] theorem AnyDescriptor.name_outline (d : AnyDescriptor) : d.outline.name = d.name := rfl

@[simp] theorem AnyDescriptor.storageClass_outline (d : AnyDescriptor) :
    d.outline.storageClass = d.storageClass := rfl

/-- The placeholder with its value forgotten. -/
def Placeholder.outline : Placeholder → Placeholder
  | .token id type => .token id type.outline
  | .blank type => .blank type.outline
  | .preset type _ => .preset type.outline (.ok .null)

@[simp] theorem Placeholder.id?_outline (p : Placeholder) : p.outline.id? = p.id? := by
  cases p <;> rfl

@[simp] theorem Placeholder.type_outline (p : Placeholder) : p.outline.type = p.type.outline := by
  cases p <;> rfl

def ColumnRef.outline (c : ColumnRef) : ColumnRef := { c with type := c.type.outline }

section

variable (c : ColumnRef)

@[simp] theorem ColumnRef.key_outline : c.outline.key = c.key := rfl

@[simp] theorem ColumnRef.qualifier_outline : c.outline.qualifier = c.qualifier := rfl

@[simp] theorem ColumnRef.origins_outline : c.outline.origins = c.origins := rfl

@[simp] theorem ColumnRef.name_outline : c.outline.name = c.name := rfl

@[simp] theorem ColumnRef.display_outline : c.outline.display = c.display := rfl

@[simp] theorem ColumnRef.derivesFrom_outline (key : ColumnKey) :
    c.outline.derivesFrom key = c.derivesFrom key := rfl

end

def Table.outline (t : Table) : Table := { t with columns := t.columns.map ColumnRef.outline }

/-! ## Trees -/

mutual

def Expr.outline : Expr → Expr
  | .column c => .column c.outline
  | .label name => .label name
  | .bind p => .bind p.outline
  | .compare op lhs rhs => .compare op lhs.outline rhs.outline
  | .like negated e pattern escape =>
    .like negated e.outline pattern.outline (optionOutline escape)
  | .isNull negated e => .isNull negated e.outline
  | .between negated e low high => .between negated e.outline low.outline high.outline
  | .inList negated e items => .inList negated e.outline (listOutline items)
  | .inQuery negated e query => .inQuery negated e.outline query.outline
  | .existsIn negated query => .existsIn negated query.outline
  | .logical op operands => .logical op (listOutline operands)
  | .not e => .not e.outline
  | .binary op lhs rhs => .binary op lhs.outline rhs.outline
  | .call f distinct args => .call f distinct (listOutline args)
  | .countRows => .countRows
  | .cast e type => .cast e.outline type
  | .scalar query => .scalar query.outline

def listOutline : List Expr → List Expr
  | [] => []
  | e :: rest => e.outline :: listOutline rest

def optionOutline : Option Expr → Option Expr
  | none => none
  | some e => some e.outline

def itemOutline : List ResultItem → List ResultItem
  | [] => []
  | .column c :: rest => .column c.outline :: itemOutline rest
  | .labelled key e type :: rest => .labelled key e.outline type.outline :: itemOutline rest

def sortOutline : List SortTerm → List SortTerm
  | [] => []
  | ⟨e, order⟩ :: rest => ⟨e.outline, order⟩ :: sortOutline rest

def Select.outline : Select → Select
  | ⟨source, distinct, items, filter, groupBy, having, orderBy, limit, offset, errors⟩ =>
    ⟨sourceOutline source, distinct, itemOutline items, optionOutline filter,
      listOutline groupBy, optionOutline having, sortOutline orderBy,
      limit.map Placeholder.outline, offset.map Placeholder.outline, errors⟩

def sourceOutline : Option Source → Option Source
  | none => none
  | some s => some s.outline

def branchOutline : List Branch → List Branch
  | [] => []
  | ⟨operator, query⟩ :: rest => ⟨operator, query.outline⟩ :: branchOutline rest

def Compound.outline : Compound → Compound
  | ⟨first, branches, orderBy, limit, offset, errors⟩ =>
    ⟨first.outline, branchOutline branches, orderBy, limit.map Placeholder.outline,
      offset.map Placeholder.outline, errors⟩

def Query.outline : Query → Query
  | .select q => .select q.outline
  | .compound q => .compound q.outline

def Relation.outline : Relation → Relation
  | .table t => .table t.outline
  | .view id name q => .view id name q.outline
  | .subquery id q => .subquery id q.outline

def Source.outline : Source → Source
  | .relation r => .relation r.outline
  | .alias id name r => .alias id name r.outline
  | .join kind lhs rhs on => .join kind lhs.outline rhs.outline (optionOutline on)

end

/-! ### Lists and options -/

theorem listOutline_eq (es : List Expr) : listOutline es = es.map Expr.outline := by
  induction es with
  | nil => rfl
  | cons e rest ih => rw [listOutline, ih, List.map_cons]

theorem optionOutline_eq (e : Option Expr) : optionOutline e = e.map Expr.outline := by
  cases e <;> rfl

theorem sourceOutline_eq (s : Option Source) : sourceOutline s = s.map Source.outline := by
  cases s <;> rfl

/-- An entry of a select list in outline. -/
def ResultItem.outline : ResultItem → ResultItem
  | .column c => .column c.outline
  | .labelled key e type => .labelled key e.outline type.outline

theorem itemOutline_eq (items : List ResultItem) :
    itemOutline items = items.map ResultItem.outline := by
  induction items with
  | nil => rfl
  | cons item rest ih => cases item <;> rw [itemOutline, ih, List.map_cons, ResultItem.outline]

def SortTerm.outline (s : SortTerm) : SortTerm := ⟨s.e.outline, s.order⟩

theorem sortOutline_eq (terms : List SortTerm) :
    sortOutline terms = terms.map SortTerm.outline := by
  induction terms with
  | nil => rfl
  | cons s rest ih =>
    obtain ⟨e, order⟩ := s
    rw [sortOutline, ih, List.map_cons, SortTerm.outline]

def Branch.outline (b : Branch) : Branch := ⟨b.operator, b.query.outline⟩

theorem branchOutline_eq (branches : List Branch) :
    branchOutline branches = branches.map Branch.outline := by
  induction branches with
  | nil => rfl
  | cons b rest ih =>
    obtain ⟨operator, query⟩ := b
    rw [branchOutline, ih, List.map_cons, Branch.outline]

theorem Select.outline_eq (q : Select) :
    q.outline =
      { q with
        source := q.source.map Source.outline
        items := q.items.map ResultItem.outline
        filter := q.filter.map Expr.outline
        groupBy := q.groupBy.map Expr.outline
        having := q.having.map Expr.outline
        orderBy := q.orderBy.map SortTerm.outline
        limit := q.limit.map Placeholder.outline
        offset := q.offset.map Placeholder.outline } := by
  obtain ⟨source, distinct, items, filter, groupBy, having, orderBy, limit, offset, errors⟩ := q
  simp only [Select.outline, sourceOutline_eq, itemOutline_eq, optionOutline_eq, listOutline_eq,
    sortOutline_eq]

theorem Compound.outline_eq (q : Compound) :
    q.outline =
      { q with
        first := q.first.outline
        branches := q.branches.map Branch.outline
        limit := q.limit.map Placeholder.outline
        offset := q.offset.map Placeholder.outline } := by
  obtain ⟨first, branches, orderBy, limit, offset, errors⟩ := q
  simp only [Compound.outline, branchOutline_eq]

end TypedSql
