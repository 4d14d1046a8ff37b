import TypedSql.Proofs.Outline.Tree

/-!
# Columns in outline

The columns of a source, the result columns of a query and the columns of an expression are computed
from the tree. The outline has the outlines of them: the computation reads identities and names,
which the outline keeps, and passes types on.

Everything that is looked up or compared by identity or name comes out the same for the outline.
-/

namespace TypedSql

/-! ## Result columns -/

def ResultEntry.outline : ResultEntry → ResultEntry
  | .column c => .column c.outline
  | .labelled key type => .labelled key type.outline

def NamedEntry.outline (e : NamedEntry) : NamedEntry := { e with entry := e.entry.outline }

def ResultColumn.outline (c : ResultColumn) : ResultColumn := { c with type := c.type.outline }

@[simp] theorem ResultItem.entry_outline (item : ResultItem) :
    item.outline.entry = item.entry.outline := by
  cases item <;> rfl

theorem nameEntries_outline (taken : List String) (entries : List ResultEntry) :
    nameEntries taken (entries.map ResultEntry.outline)
      = (nameEntries taken entries).map NamedEntry.outline := by
  induction entries generalizing taken with
  | nil => rfl
  | cons e rest ih =>
    cases e with
    | column c =>
      simp only [List.map_cons, ResultEntry.outline, nameEntries, ColumnRef.name_outline, ih]
      rfl
    | labelled key type =>
      simp only [List.map_cons, ResultEntry.outline, nameEntries, ih]
      rfl

theorem NamedEntry.resultColumn_outline (e : NamedEntry) :
    e.outline.resultColumn = e.resultColumn.outline := by
  obtain ⟨entry, name, renamed⟩ := e
  cases entry <;> rfl

theorem resultColumns_outline (entries : List ResultEntry) :
    resultColumns (entries.map ResultEntry.outline)
      = (resultColumns entries).map ResultColumn.outline := by
  simp only [resultColumns, nameEntries_outline, List.map_map]
  exact List.map_congr_left fun e _ => e.resultColumn_outline

/-! ## Columns of sources -/

mutual

theorem Select.entries_outline :
    (q : Select) → q.outline.entries = q.entries.map ResultEntry.outline
  | ⟨source, _, items, _, _, _, _, _, _, _⟩ => by
    cases items with
    | nil =>
      cases source with
      | none => rfl
      | some s =>
        simp only [Select.outline, sourceOutline, itemOutline, Select.entries,
          s.columns_outline, List.map_map]
        rfl
    | cons item rest =>
      simp only [Select.outline, itemOutline_eq, List.map_cons, Select.entries, List.map_map]
      refine List.cons_eq_cons.2 ⟨item.entry_outline, ?_⟩
      exact List.map_congr_left fun item _ => item.entry_outline

theorem Query.entries_outline :
    (q : Query) → q.outline.entries = q.entries.map ResultEntry.outline
  | .select q => q.entries_outline
  | .compound ⟨first, _, _, _, _, _⟩ => first.entries_outline

theorem Relation.columns_outline :
    (r : Relation) → r.outline.columns = r.columns.map ColumnRef.outline
  | .table t => rfl
  | .view id name q => by
    simp only [Relation.outline, Relation.columns, q.entries_outline, resultColumns_outline,
      List.map_map]
    rfl
  | .subquery id q => by
    simp only [Relation.outline, Relation.columns, q.entries_outline, resultColumns_outline,
      List.map_map]
    rfl

theorem Source.columns_outline :
    (s : Source) → s.outline.columns = s.columns.map ColumnRef.outline
  | .relation r => r.columns_outline
  | .alias id name r => by
    simp only [Source.outline, Source.columns, r.columns_outline, List.map_map]
    rfl
  | .join _ lhs rhs _ => by
    simp only [Source.outline, Source.columns, lhs.columns_outline, rhs.columns_outline,
      List.map_append]

end

theorem Select.resultColumns_outline (q : Select) :
    q.outline.resultColumns = q.resultColumns.map ResultColumn.outline := by
  simp only [Select.resultColumns, q.entries_outline, TypedSql.resultColumns_outline]

theorem Compound.resultColumns_outline (q : Compound) :
    q.outline.resultColumns = q.resultColumns.map ResultColumn.outline := by
  rw [Compound.outline_eq]
  exact q.first.resultColumns_outline

theorem Query.resultColumns_outline (q : Query) :
    q.outline.resultColumns = q.resultColumns.map ResultColumn.outline := by
  simp only [Query.resultColumns, q.entries_outline, TypedSql.resultColumns_outline]

/-! ## Lookups -/

theorem containsKey_outline (columns : List ColumnRef) (key : ColumnKey) :
    containsKey (columns.map ColumnRef.outline) key = containsKey columns key := by
  simp only [containsKey, List.any_map]
  rfl

theorem findColumn?_outline (columns : List ColumnRef) (key : ColumnKey) :
    findColumn? (columns.map ColumnRef.outline) key
      = (findColumn? columns key).map ColumnRef.outline := by
  simp only [findColumn?, List.find?_map]
  have own : ((fun c : ColumnRef => c.key == key) ∘ ColumnRef.outline) = (·.key == key) := rfl
  have derived : ((fun c : ColumnRef => c.derivesFrom key) ∘ ColumnRef.outline)
      = (·.derivesFrom key) := rfl
  rw [own, derived]
  cases columns.find? (·.key == key) <;> rfl

theorem resultIndex?_outline (columns : List ResultColumn) (key : ColumnKey) :
    resultIndex? (columns.map ResultColumn.outline) key = resultIndex? columns key := by
  simp only [resultIndex?, List.findIdx?_map]
  rfl

theorem Relation.name_outline (r : Relation) : r.outline.name = r.name := by
  cases r <;> rfl

theorem Source.name_outline (s : Source) : s.outline.name = s.name := by
  induction s using Source.name.induct with
  | case1 r => exact r.name_outline
  | case2 id name r => rfl
  | case3 kind lhs rhs on ihl ihr => simp only [Source.outline, Source.name, ihl, ihr]

theorem Source.isJoin_outline (s : Source) : s.outline.isJoin = s.isJoin := by
  cases s <;> rfl

theorem Source.contains_outline (s : Source) (key : ColumnKey) :
    s.outline.contains key = s.contains key := by
  rw [Source.contains, s.columns_outline, containsKey_outline, Source.contains]

theorem Source.find?_outline (s : Source) (key : ColumnKey) :
    s.outline.find? key = (s.find? key).map ColumnRef.outline := by
  rw [Source.find?, s.columns_outline, findColumn?_outline, Source.find?]

/-! ## Columns of expressions -/

mutual

theorem Expr.columns_outline :
    (e : Expr) → e.outline.columns = e.columns.map ColumnRef.outline
  | .column c => rfl
  | .label _ | .bind _ | .countRows | .existsIn _ _ | .scalar _ => rfl
  | .compare _ lhs rhs | .binary _ lhs rhs => by
    simp only [Expr.outline, Expr.columns, lhs.columns_outline, rhs.columns_outline,
      List.map_append]
  | .like _ e pattern escape => by
    simp only [Expr.outline, Expr.columns, e.columns_outline, pattern.columns_outline,
      optionColumns_outline escape, List.map_append]
  | .isNull _ e | .inQuery _ e _ | .not e | .cast e _ => by
    simp only [Expr.outline, Expr.columns, e.columns_outline]
  | .between _ e low high => by
    simp only [Expr.outline, Expr.columns, e.columns_outline, low.columns_outline,
      high.columns_outline, List.map_append]
  | .inList _ e items => by
    simp only [Expr.outline, Expr.columns, e.columns_outline, listColumns_outline items,
      List.map_append]
  | .logical _ es | .call _ _ es => by
    simp only [Expr.outline, Expr.columns, listColumns_outline es]

theorem optionColumns_outline :
    (e : Option Expr) → optionColumns (optionOutline e) = (optionColumns e).map ColumnRef.outline
  | none => rfl
  | some e => e.columns_outline

theorem listColumns_outline :
    (es : List Expr) → listColumns (listOutline es) = (listColumns es).map ColumnRef.outline
  | [] => rfl
  | e :: rest => by
    simp only [listOutline, listColumns, e.columns_outline, listColumns_outline rest,
      List.map_append]

end

/-- The mistakes of a join condition are those of its outline. -/
theorem joinErrors_outline (lhs rhs : Source) (kind : JoinKind) (on : Option Expr) :
    joinErrors lhs.outline rhs.outline kind (optionOutline on) = joinErrors lhs rhs kind on := by
  simp only [joinErrors, optionColumns_outline, lhs.columns_outline, rhs.columns_outline,
    ← List.map_append, containsKey_outline, Source.name, lhs.name_outline, rhs.name_outline,
    List.filter_map, List.map_map]
  rfl

end TypedSql
