import TypedSql.Query.Syntax

/-!
# The columns of queries and sources

A table exposes its own columns. An alias exposes a copy of each column of what it names, a view
or a subquery a copy of each result column of its query, and a join the columns of both sides as
they are.

Result columns have a name each. A column keeps its name unless an earlier entry has it; then it
becomes the first of `name_1`, `name_2`, … that none has. Labels are kept as they are.
-/

namespace TypedSql

/-- A result column of a query. -/
structure ResultColumn where
  name : String
  type : AnyDescriptor
  /-- The identity of the column or projection selected. -/
  key : ColumnKey
  /-- What the selected column was copied from, nearest first. -/
  lineage : List ColumnKey

namespace ResultColumn

/-- The result column has that identity, or its column was copied from one that has. -/
def derivesFrom (c : ResultColumn) (key : ColumnKey) : Bool :=
  c.key == key || c.lineage.contains key

/-- The column that a set made from the query exposes. -/
def toColumn (c : ResultColumn) (set : SetId) (qualifier : String) : ColumnRef where
  key := ⟨set, c.name⟩
  qualifier := qualifier
  type := c.type
  origins := c.key :: c.lineage

end ResultColumn

/-- The position of the first result column with that identity, or else of the first one whose
column was copied from it. -/
def resultIndex? (columns : List ResultColumn) (key : ColumnKey) : Option Nat :=
  columns.findIdx? (·.key == key) <|> columns.findIdx? (·.derivesFrom key)

/-! ## Select lists -/

/-- What an entry of a select list contributes to the result. -/
inductive ResultEntry where
  | column (c : ColumnRef)
  | labelled (key : ColumnKey) (type : AnyDescriptor)

def ResultItem.entry : ResultItem → ResultEntry
  | .column c => .column c
  | .labelled key _ type => .labelled key type

/-- An entry with its name in the result. -/
structure NamedEntry where
  entry : ResultEntry
  name : String
  /-- The name differs from the column's own. -/
  renamed : Bool

/-- The first of `name_1`, `name_2`, … that is not taken. -/
def freshName (taken : List String) (name : String) : String :=
  let candidate (n : Nat) : String := name ++ "_" ++ toString (n + 1)
  match (List.range (taken.length + 1)).find? fun n => !taken.contains (candidate n) with
  | some n => candidate n
  | none => name

/-- Names the entries in order; `taken` are the names given before. -/
def nameEntries (taken : List String) : List ResultEntry → List NamedEntry
  | [] => []
  | .column c :: rest =>
    let clash := taken.contains c.name
    let name := if clash then freshName taken c.name else c.name
    ⟨.column c, name, clash⟩ :: nameEntries (name :: taken) rest
  | .labelled key type :: rest =>
    ⟨.labelled key type, key.name, false⟩ :: nameEntries (key.name :: taken) rest

def NamedEntry.resultColumn (e : NamedEntry) : ResultColumn :=
  match e.entry with
  | .column c => ⟨e.name, c.type, c.key, c.origins⟩
  | .labelled key type => ⟨e.name, type, key, []⟩

/-- The result columns of a select list. -/
def resultColumns (entries : List ResultEntry) : List ResultColumn :=
  (nameEntries [] entries).map NamedEntry.resultColumn

mutual

/-- The entries of the select list; without any, the columns of the source. -/
def Select.entries : Select → List ResultEntry
  | ⟨source, _, items, _, _, _, _, _, _, _⟩ =>
    match items with
    | [] =>
      match source with
      | some s => s.columns.map .column
      | none => []
    | items => items.map ResultItem.entry

/-- The entries of the first query. -/
def Query.entries : Query → List ResultEntry
  | .select q => q.entries
  | .compound ⟨first, _, _, _, _, _⟩ => first.entries

/-- The columns of the set. -/
def Relation.columns : Relation → List ColumnRef
  | .table t => t.columns
  | .view id name q => (resultColumns q.entries).map (·.toColumn id name)
  | .subquery id q => (resultColumns q.entries).map (·.toColumn id "")

/-- The columns a query can use. -/
def Source.columns : Source → List ColumnRef
  | .relation r => r.columns
  | .alias id name r => r.columns.map (·.copy id name)
  | .join _ lhs rhs _ => lhs.columns ++ rhs.columns

end

def Select.resultColumns (q : Select) : List ResultColumn := TypedSql.resultColumns q.entries

def Compound.resultColumns (q : Compound) : List ResultColumn := q.first.resultColumns

def Query.resultColumns (q : Query) : List ResultColumn := TypedSql.resultColumns q.entries

/-! ## Names and lookups -/

def Relation.name : Relation → String
  | .table t => t.name
  | .view _ name _ => name
  | .subquery _ _ => "subquery"

def Relation.id : Relation → SetId
  | .table t => t.id
  | .view id _ _ => id
  | .subquery id _ => id

namespace Source

/-- The name in messages; a join is named after both sides. -/
def name : Source → String
  | .relation r => r.name
  | .alias _ name _ => name
  | .join kind lhs rhs _ => lhs.name ++ " " ++ kind.sql ++ " " ++ rhs.name

def isJoin : Source → Bool
  | .join .. => true
  | _ => false

/-- The set its columns belong to; those of a join keep their own. -/
def id? : Source → Option SetId
  | .relation r => some r.id
  | .alias id _ _ => some id
  | .join .. => none

def contains (s : Source) (key : ColumnKey) : Bool := containsKey s.columns key

/-- The source's column for an identity: itself, or the first one copied from it. -/
def find? (s : Source) (key : ColumnKey) : Option ColumnRef := findColumn? s.columns key

/-- The source's copy of a column or projection of what it wraps. -/
def resolve {t : ValueType} (s : Source) (target : Target t) : Except SchemaError (Column t) :=
  match s.find? target.key with
  | some c => .ok ⟨c, target.descriptor⟩
  | none => .error (.columnNotInSet target.display s.name)

end Source

/-! ## Columns of an expression -/

mutual

/-- The columns an expression mentions outside nested queries, in the order of the text. -/
def Expr.columns : Expr → List ColumnRef
  | .column c => [c]
  | .label _ | .bind _ | .countRows | .existsIn _ _ | .scalar _ => []
  | .compare _ lhs rhs | .binary _ lhs rhs => lhs.columns ++ rhs.columns
  | .like _ e pattern escape => e.columns ++ pattern.columns ++ optionColumns escape
  | .isNull _ e | .inQuery _ e _ | .not e | .cast e _ => e.columns
  | .between _ e low high => e.columns ++ low.columns ++ high.columns
  | .inList _ e items => e.columns ++ listColumns items
  | .logical _ operands => listColumns operands
  | .call _ _ args => listColumns args

def optionColumns : Option Expr → List ColumnRef
  | none => []
  | some e => e.columns

def listColumns : List Expr → List ColumnRef
  | [] => []
  | e :: rest => e.columns ++ listColumns rest

end

/-- The columns of a join condition that neither side has. -/
def joinErrors (lhs rhs : Source) (kind : JoinKind) (on : Option Expr) : List SchemaError :=
  let available := lhs.columns ++ rhs.columns
  ((optionColumns on).filter fun c => !containsKey available c.key).map fun c =>
    .columnNotInSet c.display (Source.join kind lhs rhs none).name

end TypedSql
