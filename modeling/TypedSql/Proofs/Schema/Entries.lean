import TypedSql.Proofs.Render.Text
import TypedSql.Schema.Definition

/-!
# Table definitions in pieces

**Theorem (`Table.createSql_eq_sqlText`).** The text of a table definition is that of its pieces:
names, spelled by the dialect, between texts that are the same in every dialect.

A definition is a list of entries, one for each column and one for a primary key of several columns.
The entry of a column is its name, its type, and a row of clauses. Which clauses and entries stand
there is settled before anything is spelled.
-/

namespace TypedSql

variable {d : Dialect}

/-! ## Clauses and entries -/

/-- What is said of a column behind its type. -/
inductive Clause where
  | primaryKey
  | autoIncrement
  | notNull
  | unique
  | default (literal : String)
  | references (table column : String)
  | onDelete (action : ForeignKeyAction)
  | onUpdate (action : ForeignKeyAction)
deriving DecidableEq

def Clause.pieces : Clause → List Piece
  | .primaryKey => [.text " PRIMARY KEY"]
  | .autoIncrement => [.text " AUTOINCREMENT"]
  | .notNull => [.text " NOT NULL"]
  | .unique => [.text " UNIQUE"]
  | .default literal => [.text " DEFAULT ", .text literal]
  | .references table column =>
    [.text " REFERENCES ", .name table, .text " (", .name column, .text ")"]
  | .onDelete action => [.text " ON DELETE ", .text action.sql]
  | .onUpdate action => [.text " ON UPDATE ", .text action.sql]

/-- One member of the list between the parentheses of a table definition. -/
inductive Entry where
  | column (name type : String) (clauses : List Clause)
  | primaryKey (names : List String)
deriving DecidableEq

def Entry.pieces : Entry → List Piece
  | .column name type clauses =>
    .name name :: .text " " :: .text type :: clauses.flatMap Clause.pieces
  | .primaryKey names =>
    .text "PRIMARY KEY (" :: Piece.separated ", " (names.map fun name => [.name name])
      ++ [.text ")"]

def ForeignKey.clauses (fk : ForeignKey) : List Clause :=
  .references fk.table fk.column
    :: ((fk.onDelete.map .onDelete).toList ++ (fk.onUpdate.map .onUpdate).toList)

namespace ColumnRef

/-- The column is the whole primary key, if the table's primary key is one column. -/
def isSoleKey (soleKey : Bool) (c : ColumnRef) : Bool := soleKey && c.constraints.primaryKey

/-- The key of one column, or NOT NULL. -/
def keyClauses (soleKey : Bool) (c : ColumnRef) : List Clause :=
  if c.isSoleKey soleKey then
    .primaryKey :: if c.constraints.autoIncrement then [.autoIncrement] else []
  else if c.type.nullable then [] else [.notNull]

def clauses (soleKey : Bool) (c : ColumnRef) : List Clause :=
  c.keyClauses soleKey ++ (if c.constraints.unique then [.unique] else [])
    ++ (c.constraints.default.map fun v => Clause.default v.literal).toList
    ++ (c.constraints.foreignKey.map ForeignKey.clauses).getD []

def entry (soleKey : Bool) (c : ColumnRef) : Entry :=
  .column c.name c.type.declaredType (c.clauses soleKey)

end ColumnRef

namespace Table

/-- The primary key is one column. -/
def soleKey (t : Table) : Bool := t.primaryKey.length == 1

/-- The names of a primary key that has an entry of its own. -/
def keyNames (t : Table) : List String :=
  if t.soleKey then [] else t.primaryKey.map ColumnRef.name

def entries (t : Table) : List Entry :=
  t.columns.map (·.entry t.soleKey)
    ++ if t.keyNames.isEmpty then [] else [.primaryKey t.keyNames]

def pieces (t : Table) : List Piece :=
  .text "CREATE TABLE IF NOT EXISTS " :: .name t.name :: .text " ("
    :: Piece.separated ", " (t.entries.map Entry.pieces) ++ [.text ")"]

end Table

/-! ## Their text -/

/-- The clauses of a column as its definition writes them. -/
def clausesText (d : Dialect) (cs : List Clause) : String :=
  Piece.sqlText d (cs.flatMap Clause.pieces)

theorem clausesText_cons (c : Clause) (cs : List Clause) :
    clausesText d (c :: cs) = Piece.sqlText d c.pieces ++ clausesText d cs := by
  rw [clausesText, List.flatMap_cons, Piece.sqlText_append]
  rfl

theorem clausesText_append (cs cs' : List Clause) :
    clausesText d (cs ++ cs') = clausesText d cs ++ clausesText d cs' := by
  rw [clausesText, List.flatMap_append, Piece.sqlText_append]
  rfl

theorem ForeignKey.clausesText_clauses (fk : ForeignKey) :
    clausesText d fk.clauses = " " ++ fk.sql d := by
  have behind (s : String) : " " ++ ("REFERENCES " ++ s) = " REFERENCES " ++ s :=
    (String.append_assoc ..).symm
  obtain ⟨id, table, column, onDelete, onUpdate⟩ := fk
  rw [clauses, clausesText_cons, clausesText_append]
  cases onDelete <;> cases onUpdate <;>
    simp [clausesText, ForeignKey.sql, Clause.pieces, Piece.sqlText, Piece.sql,
      String.append_assoc, behind]

namespace ColumnRef

variable (c : ColumnRef) (soleKey : Bool)

theorem clausesText_keyClauses :
    clausesText d (c.keyClauses soleKey)
      = if soleKey && c.constraints.primaryKey then
          " PRIMARY KEY" ++ (if c.constraints.autoIncrement then " AUTOINCREMENT" else "")
        else if c.type.nullable then "" else " NOT NULL" := by
  rw [keyClauses, isSoleKey]
  split
  · cases c.constraints.autoIncrement <;> rfl
  · cases c.type.nullable <;> rfl

theorem clausesText_unique :
    clausesText d (if c.constraints.unique then [.unique] else [])
      = if c.constraints.unique then " UNIQUE" else "" := by
  cases c.constraints.unique <;> rfl

theorem clausesText_default :
    clausesText d (c.constraints.default.map fun v => Clause.default v.literal).toList
      = c.constraints.default.elim "" fun v => " DEFAULT " ++ v.literal := by
  cases c.constraints.default with
  | none => rfl
  | some v => simp [clausesText, Clause.pieces, Piece.sqlText, Piece.sql]

theorem clausesText_foreignKey :
    clausesText d ((c.constraints.foreignKey.map ForeignKey.clauses).getD [])
      = c.constraints.foreignKey.elim "" fun fk => " " ++ fk.sql d := by
  cases c.constraints.foreignKey with
  | none => rfl
  | some fk => exact fk.clausesText_clauses

/-- The definition of a column is the text of its entry. -/
theorem definition_eq : c.definition d soleKey = Piece.sqlText d (c.entry soleKey).pieces := by
  have text : Piece.sqlText d (c.entry soleKey).pieces
      = d.spell c.name ++ (" " ++ (c.type.declaredType ++ clausesText d (c.clauses soleKey))) := by
    rw [entry, Entry.pieces, Piece.sqlText_cons, Piece.sqlText_cons, Piece.sqlText_cons]
    rfl
  rw [text, clauses, clausesText_append, clausesText_append, clausesText_append,
    clausesText_keyClauses, clausesText_unique, clausesText_default, clausesText_foreignKey,
    definition]
  simp only [String.append_assoc]
  cases c.constraints.default <;> cases c.constraints.foreignKey <;> rfl

end ColumnRef

/-- The entry of a primary key of several columns. -/
theorem Entry.sqlText_primaryKey (names : List String) :
    Piece.sqlText d (Entry.primaryKey names).pieces
      = "PRIMARY KEY (" ++ commaSeparated (names.map d.spell) ++ ")" := by
  have single : (names.map fun name => [Piece.name name]).map (Piece.sqlText d)
      = names.map d.spell := by
    rw [List.map_map]
    exact List.map_congr_left fun name _ => Piece.sqlText_singleton (.name name)
  rw [Entry.pieces, List.cons_append, Piece.sqlText_cons, Piece.sqlText_append,
    Piece.sqlText_separated, single, ← String.append_assoc]
  rfl

/-- What stands between the parentheses of a definition is the entries. -/
theorem Table.sqlText_entries (t : Table) :
    (t.entries.map Entry.pieces).map (Piece.sqlText d)
      = (t.columns.map fun c => c.definition d t.soleKey)
        ++ if t.soleKey || t.primaryKey.isEmpty then []
          else ["PRIMARY KEY (" ++ commaSeparated (t.primaryKey.map fun c => d.spell c.name)
            ++ ")"] := by
  rw [entries, List.map_append, List.map_append, List.map_map, List.map_map]
  refine congrArg₂ (· ++ ·) ?_ ?_
  · exact List.map_congr_left fun c _ => (c.definition_eq t.soleKey).symm
  · rw [keyNames]
    cases t.soleKey with
    | true => rfl
    | false =>
      cases t.primaryKey with
      | nil => rfl
      | cons c cs =>
        have names : ((c :: cs).map ColumnRef.name).map d.spell
            = (c :: cs).map fun c => d.spell c.name := List.map_map
        rw [if_neg Bool.false_ne_true, ← names]
        exact congrArg (fun text => [text]) (Entry.sqlText_primaryKey _)

/-- **A table definition has the text of its pieces.** -/
theorem Table.createSql_eq_sqlText (t : Table) (d : Dialect) :
    t.createSql d = Piece.sqlText d t.pieces := by
  have closing : Piece.sqlText d [.text ")"] = ")" := Piece.sqlText_singleton _
  rw [pieces, List.cons_append, List.cons_append, List.cons_append, Piece.sqlText_cons,
    Piece.sqlText_cons, Piece.sqlText_cons, Piece.sqlText_append, Piece.sqlText_separated,
    t.sqlText_entries, closing]
  unfold createSql
  dsimp only [Piece.sql]
  simp only [String.append_assoc]
  rfl

end TypedSql
