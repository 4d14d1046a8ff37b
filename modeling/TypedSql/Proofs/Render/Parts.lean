import TypedSql.Proofs.Query.Scoping
import TypedSql.Proofs.Render.StatementPieces

/-!
# What rendering writes

The rendered parts of a statement in the order of the text, each column of an expression together
with the query levels around it. Keywords and punctuation are left out, and so is what the text
leaves out: the operands of a test for membership in an empty list.
-/

namespace TypedSql

/-- A part of a statement that leaves a name, a placeholder or a mistake behind. -/
inductive Part where
  /-- A column of an expression, with the query levels around it, the innermost first. -/
  | column (levels : List Level) (c : ColumnRef)
  /-- A column selected by itself. -/
  | selected (c : ColumnRef)
  /-- The name of a result column, written behind `AS`. -/
  | resultName (e : NamedEntry)
  /-- A label, or the name of a table, a view, an alias or a column given a value. -/
  | name (n : String)
  | bind (p : Placeholder)
  /-- The type an expression is cast to. -/
  | castType (type : String)
  | mistake (e : SchemaError)

def placeholderParts : Option Placeholder → List Part
  | none => []
  | some p => [.bind p]

/-- The entries of a select list; without any, the columns of the source. -/
def listedEntries (source : Level) (items : List ResultItem) : List ResultEntry :=
  match items with
  | [] => (Scope.ofSource source).columns.map ResultEntry.column
  | items => items.map ResultItem.entry

/-- The parts of the entries; without any entry, those of the columns of the source. -/
def listedParts (source : Level) (items : List ResultItem) (parts : List (List Part)) :
    List (List Part) :=
  match items with
  | [] => (Scope.ofSource source).columns.map fun c => [.selected c]
  | _ :: _ => parts

/-- The parts of a select list with the names of the entries in the result. -/
def selectListParts (seen : List String) : List (NamedEntry × List Part) → List (List Part)
  | [] => []
  | (e, xs) :: rest =>
    let repeated :=
      if seen.contains e.name then [Part.mistake (.duplicateColumn "result" e.name)] else []
    let label :=
      match e.entry with
      | .labelled .. => [Part.resultName e]
      | .column _ => if e.renamed then [Part.resultName e] else []
    (repeated ++ xs ++ label) :: selectListParts (e.name :: seen) rest

mutual

def Expr.parts (levels : List Level) : Expr → List Part
  | .column c => [.column levels c]
  | .label name => [.name name]
  | .bind p => [.bind p]
  | .countRows => []
  | .compare _ lhs rhs | .binary _ lhs rhs => lhs.parts levels ++ rhs.parts levels
  | .like _ e pattern escape =>
    e.parts levels ++ pattern.parts levels ++ optionParts levels escape
  | .isNull _ e | .not e => e.parts levels
  | .cast e type => e.parts levels ++ [.castType type]
  | .between _ e low high => e.parts levels ++ low.parts levels ++ high.parts levels
  | .inList _ _ [] => []
  | .inList _ e (item :: items) =>
    e.parts levels ++ item.parts levels ++ (listParts levels items).flatten
  | .inQuery _ e query => e.parts levels ++ query.parts levels
  | .existsIn _ query | .scalar query => query.parts levels
  | .logical _ operands => (listParts levels operands).flatten
  | .call _ _ args => (listParts levels args).flatten

def optionParts (levels : List Level) : Option Expr → List Part
  | none => []
  | some e => e.parts levels

def listParts (levels : List Level) : List Expr → List (List Part)
  | [] => []
  | e :: rest => e.parts levels :: listParts levels rest

def itemParts (levels : List Level) : List ResultItem → List (List Part)
  | [] => []
  | .column c :: rest => [.selected c] :: itemParts levels rest
  | .labelled _ e _ :: rest => e.parts levels :: itemParts levels rest

def sortParts (levels : List Level) : List SortTerm → List (List Part)
  | [] => []
  | ⟨e, _⟩ :: rest => e.parts levels :: sortParts levels rest

def Select.parts (outer : List Level) : Select → List Part
  | ⟨source, _, items, filter, groupBy, having, orderBy, limit, offset, errors⟩ =>
    let levels := source :: outer
    let entries := listedEntries source items
    let listed := listedParts source items (itemParts levels items)
    errors.map Part.mistake
      ++ (if entries.isEmpty then [Part.mistake .noResultColumns] else [])
      ++ (selectListParts [] ((nameEntries [] entries).zip listed)).flatten
      ++ fromParts levels source
      ++ optionParts levels filter
      ++ (listParts levels groupBy).flatten
      ++ optionParts levels having
      ++ (sortParts levels orderBy).flatten
      ++ placeholderParts limit
      ++ placeholderParts offset

def fromParts (levels : List Level) : Option Source → List Part
  | none => []
  | some s => s.parts levels

def branchParts (levels : List Level) : List Branch → List Part
  | [] => []
  | ⟨_, query⟩ :: rest => query.parts levels ++ branchParts levels rest

def Query.parts (levels : List Level) : Query → List Part
  | .select q => q.parts levels
  | .compound ⟨first, branches, _, limit, offset, errors⟩ =>
    errors.map Part.mistake
      ++ first.parts levels
      ++ branchParts levels branches
      ++ placeholderParts limit
      ++ placeholderParts offset

def Relation.parts (levels : List Level) : Relation → List Part
  | .table t => [.name t.name]
  | .view _ name _ => [.name name]
  | .subquery _ query => query.parts levels

def Source.parts (levels : List Level) : Source → List Part
  | .relation r => r.parts levels
  | .alias _ name r => r.parts levels ++ [.name name]
  | .join kind lhs rhs on =>
    (joinErrors lhs rhs kind on).map Part.mistake
      ++ lhs.parts levels
      ++ rhs.parts levels
      ++ optionParts levels on

end

/-- The only level of a statement that changes a table. -/
def Table.level (t : Table) : Level := some (.relation (.table t))

def Insert.parts (i : Insert) : List Part :=
  i.values.errors.map Part.mistake
    ++ .name i.table.name
    :: (i.values.pairs.map fun (c, _) => Part.name c.name)
    ++ i.values.pairs.flatMap fun (_, e) => e.parts []

def Update.parts (u : Update) : List Part :=
  u.assignments.errors.map Part.mistake
    ++ .name u.table.name
    :: (u.assignments.pairs.flatMap fun (c, e) => .name c.name :: e.parts [u.table.level])
    ++ optionParts [u.table.level] u.filter

def Delete.parts (d : Delete) : List Part :=
  .name d.table.name :: optionParts [d.table.level] d.filter

def Statement.parts : Statement → List Part
  | .query q => q.parts []
  | .insert i => i.parts
  | .update u => u.parts
  | .delete d => d.parts

end TypedSql
