import TypedSql.Schema.Table
import TypedSql.Storage.Literal

/-!
# Table definitions as SQL

`CREATE TABLE` and `DROP TABLE`. A primary key of one column is written with the column, one of
several behind all columns.
-/

namespace TypedSql

/-- The list with a separator between its members. -/
def commaSeparated (parts : List String) : String := String.intercalate ", " parts

/-- `REFERENCES` with its actions. -/
def ForeignKey.sql (fk : ForeignKey) (d : Dialect) : String :=
  let action (event : String) (a : Option ForeignKeyAction) : String :=
    match a with
    | some a => " ON " ++ event ++ " " ++ a.sql
    | none => ""
  "REFERENCES " ++ d.spell fk.table ++ " (" ++ d.spell fk.column ++ ")"
    ++ action "DELETE" fk.onDelete ++ action "UPDATE" fk.onUpdate

/-- One column: name, type, key or NOT NULL, and the other constraints. -/
def ColumnRef.definition (c : ColumnRef) (d : Dialect) (keyInline : Bool) : String :=
  let k := c.constraints
  let required :=
    if keyInline && k.primaryKey then
      " PRIMARY KEY" ++ (if k.autoIncrement then " AUTOINCREMENT" else "")
    else if c.type.nullable then "" else " NOT NULL"
  d.spell c.name ++ " " ++ c.type.declaredType ++ required
    ++ (if k.unique then " UNIQUE" else "")
    ++ (match k.default with
        | some v => " DEFAULT " ++ v.literal
        | none => "")
    ++ (match k.foreignKey with
        | some fk => " " ++ fk.sql d
        | none => "")

namespace Table

def primaryKey (t : Table) : List ColumnRef := t.columns.filter (·.constraints.primaryKey)

def createSql (t : Table) (d : Dialect) : String :=
  let keyInline := t.primaryKey.length == 1
  let columns := t.columns.map fun c => c.definition d keyInline
  let key :=
    if keyInline || t.primaryKey.isEmpty then []
    else ["PRIMARY KEY (" ++ commaSeparated (t.primaryKey.map fun c => d.spell c.name) ++ ")"]
  "CREATE TABLE IF NOT EXISTS " ++ d.spell t.name ++ " (" ++ commaSeparated (columns ++ key) ++ ")"

def dropSql (t : Table) (d : Dialect) : String := "DROP TABLE IF EXISTS " ++ d.spell t.name

end Table
end TypedSql
