import TypedSql.Kind.Descriptor
import TypedSql.Schema.Identity

/-!
# Columns

A column has an identity, the name its set is exposed under, a descriptor, and the constraints of
its definition. Aliases, views and subqueries expose copies of columns under an identity of their
own; a copy keeps the descriptor, drops the constraints and remembers what it was copied from,
nearest first.
-/

namespace TypedSql

/-- What happens to a row whose referenced row is deleted or changed. -/
inductive ForeignKeyAction where
  | noAction
  | restrict
  | cascade
  | setNull
  | setDefault
deriving DecidableEq, Repr

def ForeignKeyAction.sql : ForeignKeyAction → String
  | .noAction => "NO ACTION"
  | .restrict => "RESTRICT"
  | .cascade => "CASCADE"
  | .setNull => "SET NULL"
  | .setDefault => "SET DEFAULT"

/-- The action of that spelling. -/
def ForeignKeyAction.ofSql? (s : String) : Option ForeignKeyAction :=
  [.noAction, .restrict, .cascade, .setNull, .setDefault].find? (ForeignKeyAction.sql · == s)

/-- A reference to a column of a table. -/
structure ForeignKey where
  tableId : SetId
  table : String
  column : String
  onDelete : Option ForeignKeyAction := none
  onUpdate : Option ForeignKeyAction := none
deriving DecidableEq, Repr

/-- The constraints of a column, NOT NULL apart, which is part of its descriptor. -/
structure Constraints where
  primaryKey : Bool := false
  unique : Bool := false
  autoIncrement : Bool := false
  /-- The default in stored form. -/
  default : Option StorageValue := none
  foreignKey : Option ForeignKey := none

/-- A column of any value type. -/
structure ColumnRef where
  key : ColumnKey
  /-- The name of the table, view or alias, empty for a subquery. -/
  qualifier : String
  type : AnyDescriptor
  constraints : Constraints := {}
  /-- The columns and projections it was copied from, nearest first. -/
  origins : List ColumnKey := []

namespace ColumnRef

def name (c : ColumnRef) : String := c.key.name

/-- The name with its qualifier, if there is one. -/
def display (c : ColumnRef) : String :=
  if c.qualifier.isEmpty then c.name else c.qualifier ++ "." ++ c.name

/-- The column has that identity, or was copied from one that has. -/
def derivesFrom (c : ColumnRef) (key : ColumnKey) : Bool := c.key == key || c.origins.contains key

/-- A table declares the column. -/
def isTableColumn (c : ColumnRef) : Bool := c.origins.isEmpty

/-- The copy that another set exposes. -/
def copy (c : ColumnRef) (set : SetId) (qualifier : String) : ColumnRef where
  key := ⟨set, c.name⟩
  qualifier := qualifier
  type := c.type
  origins := c.key :: c.origins

end ColumnRef

/-- A column of values of type `t`. -/
structure Column (t : ValueType) where
  ref : ColumnRef
  descriptor : Descriptor t

/-- The first column with that identity, or else the first one copied from it. -/
def findColumn? (columns : List ColumnRef) (key : ColumnKey) : Option ColumnRef :=
  columns.find? (·.key == key) <|> columns.find? (·.derivesFrom key)

/-- One of the columns has that identity. -/
def containsKey (columns : List ColumnRef) (key : ColumnKey) : Bool :=
  columns.any (·.key == key)

/-- Something whose value can be read from a result: a column or a projection. -/
structure Target (t : ValueType) where
  key : ColumnKey
  descriptor : Descriptor t
  /-- How messages call it. -/
  display : String

def Column.target {t : ValueType} (c : Column t) : Target t :=
  ⟨c.ref.key, c.descriptor, c.ref.display⟩

end TypedSql
