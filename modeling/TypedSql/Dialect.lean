import TypedSql.Error.Schema
import TypedSql.Text.Ascii

/-!
# Names and dialects

Names of tables, columns and labels are plain: letters, digits and underscores of ASCII, no digit
in front. A dialect says which of them collide with its keywords and have to be quoted, how they
are quoted, and how a parameter is marked. It may also write names in a way of its own.
-/

namespace TypedSql

/-- The keywords of standard SQL and of every common engine. -/
def reservedWords : List String :=
  ["ADD", "ALL", "ALTER", "AND", "AS", "ASC", "BETWEEN", "BY", "CASE", "CAST", "CHECK",
    "COLLATE", "COLUMN", "CONSTRAINT", "CREATE", "CROSS", "CURRENT_DATE", "CURRENT_TIME",
    "CURRENT_TIMESTAMP", "DEFAULT", "DELETE", "DESC", "DISTINCT", "DROP", "ELSE", "END",
    "ESCAPE", "EXCEPT", "EXISTS", "FOREIGN", "FROM", "FULL", "GROUP", "HAVING", "IN",
    "INDEX", "INNER", "INSERT", "INTERSECT", "INTO", "IS", "JOIN", "KEY", "LEFT", "LIKE",
    "LIMIT", "NATURAL", "NOT", "NULL", "OFFSET", "ON", "OR", "ORDER", "OUTER", "PRIMARY",
    "REFERENCES", "RIGHT", "SELECT", "SET", "TABLE", "THEN", "TO", "UNION", "UNIQUE",
    "UPDATE", "USING", "VALUES", "VIEW", "WHEN", "WHERE", "WITH"]

/-- The word is one of a list, in any case. -/
def isWordOf (words : List String) (word : String) : Bool := words.any (Text.sameName · word)

/-- A name between two quotes where it has to be quoted. -/
def quotedIf (needed : Bool) (quote : Char) (name : String) : String :=
  if needed then quote.toString ++ name ++ quote.toString else name

/-- A way of spelling SQL. -/
structure Dialect where
  name : String
  /-- Stands on both sides of a quoted name. -/
  quote : Char := '"'
  /-- Marks a parameter. -/
  placeholder : String := "?"
  /-- The name has to be quoted. -/
  isReserved : String → Bool := isWordOf reservedWords
  /-- A name as it is written in SQL text. -/
  spell : String → String := fun name => quotedIf (isReserved name) quote name

namespace Dialect

/-- The dialect quotes the names it reserves and writes all others as they are. -/
def Quotes (d : Dialect) : Prop :=
  ∀ name, d.spell name = quotedIf (d.isReserved name) d.quote name

/-- Standard SQL. -/
def generic : Dialect := { name := "generic" }

/-- The keywords of SQLite beyond those of standard SQL. -/
def sqliteWords : List String :=
  ["ABORT", "AUTOINCREMENT", "CONFLICT", "GLOB", "IGNORE", "INDEXED", "ISNULL", "NOTNULL",
    "PRAGMA", "RAISE", "REGEXP", "REPLACE", "VACUUM"]

def sqlite : Dialect where
  name := "sqlite"
  isReserved word := isWordOf reservedWords word || isWordOf sqliteWords word

/-- Names between backquotes. -/
def backticks : Dialect where
  name := "backticks"
  quote := '\x60'

/-- Every name between bars, and named parameters. -/
def quoteAll : Dialect where
  name := "quoteall"
  quote := '|'
  placeholder := ":p"
  isReserved _ := true

/-- The dialect of that name. -/
def named? (name : String) : Option Dialect :=
  [generic, sqlite, backticks, quoteAll].find? (Dialect.name · == name)

end Dialect

/-! ## Valid names -/

def isNameStart (c : Char) : Bool := Text.isAsciiLetter c || c == '_'

def isNameRest (c : Char) : Bool := Text.isAsciiLetter c || Text.isAsciiDigit c || c == '_'

/-- The text can be the name of a table, a column, a label or an alias. -/
def isValidName (name : String) : Bool :=
  match name.toList with
  | [] => false
  | c :: rest => isNameStart c && rest.all isNameRest

def validateName (name : String) : Except SchemaError Unit :=
  if isValidName name then .ok () else .error (.invalidIdentifier name)

theorem validateName_eq_ok_iff {name : String} :
    validateName name = .ok () ↔ isValidName name = true := by
  unfold validateName
  split <;> simp_all

end TypedSql
