import TypedSql.Text.Quoted

/-!
# Configuration errors

What can be wrong with the definition of a table, a source or a query, apart from its values.
-/

namespace TypedSql

/-- A mistake in a definition. -/
inductive SchemaError where
  /-- The text is no name. -/
  | invalidIdentifier (name : String)
  /-- Two columns of one set share a name, or one column is given twice. -/
  | duplicateColumn (set column : String)
  /-- Two tables share a name. -/
  | duplicateTable (name : String)
  /-- The table has no column. -/
  | emptyTable (name : String)
  /-- The tables reference one another in a circle. -/
  | foreignKeyCycle (tables : List String)
  /-- The column is none of the set's. -/
  | columnNotInSet (column set : String)
  /-- The source cannot be given another name. -/
  | invalidAlias (name : String)
  /-- The column is none of a table's. -/
  | invalidReference (column : String)
  /-- The default cannot be stored in its column. -/
  | invalidDefault (column reason : String)
  /-- The query selects nothing. -/
  | noResultColumns
  /-- The query cannot be a view. -/
  | invalidView (view reason : String)
deriving DecidableEq, Repr

/-- The mistake in one word. -/
def SchemaError.tag : SchemaError → String
  | .invalidIdentifier .. => "InvalidIdentifier"
  | .duplicateColumn .. => "DuplicateColumn"
  | .duplicateTable .. => "DuplicateTable"
  | .emptyTable .. => "EmptyTable"
  | .foreignKeyCycle .. => "ForeignKeyCycle"
  | .columnNotInSet .. => "ColumnNotInSet"
  | .invalidAlias .. => "InvalidAlias"
  | .invalidReference .. => "InvalidReference"
  | .invalidDefault .. => "InvalidDefault"
  | .noResultColumns => "NoResultColumns"
  | .invalidView .. => "InvalidView"

def SchemaError.message : SchemaError → String
  | .invalidIdentifier name => "invalid identifier: " ++ Text.quoted name
  | .duplicateColumn set column => s!"duplicate column '{column}' in '{set}'"
  | .duplicateTable name => s!"duplicate table '{name}'"
  | .emptyTable name => s!"table '{name}' has no columns"
  | .foreignKeyCycle tables =>
    "foreign key cycle between tables: " ++ String.intercalate ", " tables
  | .columnNotInSet column set => s!"column '{column}' does not belong to '{set}'"
  | .invalidAlias name => s!"cannot alias {name}"
  | .invalidReference column => s!"column '{column}' cannot be referenced by a foreign key"
  | .invalidDefault column reason => s!"invalid default for column '{column}': {reason}"
  | .noResultColumns => "query selects no columns"
  | .invalidView view reason => s!"invalid view '{view}': {reason}"

end TypedSql
