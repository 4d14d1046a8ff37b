import TypedSql.Query.Building

/-!
# Statements

A statement is a query or a change of one table. An INSERT gives values to columns of one new row;
an UPDATE assigns to at least one column; a DELETE has a condition or deletes every row on purpose.
Columns must belong to the table and may be given once; mistakes are kept with the statement.
`Insert.Call` and `Update.Call` are the calls that put the two together.
-/

namespace TypedSql

variable {t : ValueType}

/-- Columns with what they are given, and the mistakes made in giving. -/
structure Assignments where
  pairs : List (ColumnRef × Expr) := []
  errors : List SchemaError := []

namespace Assignments

/-- Gives a column of the table an expression, unless it has one. -/
def give (a : Assignments) (table : Table) (c : ColumnRef) (e : Expr) : Assignments :=
  if !containsKey table.columns c.key then
    { a with errors := a.errors ++ [.columnNotInSet c.display table.name] }
  else if a.pairs.any (·.1.key == c.key) then
    { a with errors := a.errors ++ [.duplicateColumn table.name c.name] }
  else { a with pairs := a.pairs ++ [(c, e)] }

/-- Something has been given, or a mistake made. -/
def touched (a : Assignments) : Bool := !a.pairs.isEmpty || !a.errors.isEmpty

theorem touched_give (a : Assignments) (table : Table) (c : ColumnRef) (e : Expr) :
    (a.give table c e).touched = true := by
  unfold give touched
  split
  · simp
  · split <;> simp

end Assignments

/-! ## INSERT -/

/-- A new row of a table. -/
structure Insert where
  table : Table
  conflict : Option Conflict := none
  values : Assignments := {}

namespace Insert

def give (i : Insert) (c : ColumnRef) (e : Expr) : Insert :=
  { i with values := i.values.give i.table c e }

/-- Gives a column a value, an expression or a placeholder. -/
def set (i : Insert) (c : Column t) (o : Operand t) : Insert := i.give c.ref (o.toExpr c.descriptor)

/-- Gives a column a placeholder bound by position. -/
def setBlank (i : Insert) (c : Column t) : Insert :=
  i.give c.ref (.bind (.blank c.descriptor.erase))

/-- Gives every component of a composite column its part of the value. -/
def setComposite {α : Type} (i : Insert) (c : CompositeColumn α) (value : α) : Insert :=
  (c.parts.zip (c.presets value)).foldl (fun i (part, p) => i.give part (.bind p)) i

/-- What to do with a row that is there already. -/
def onConflict (i : Insert) (conflict : Conflict) : Insert := { i with conflict := some conflict }

/-- A call on an INSERT. -/
inductive Call where
  | set {t : ValueType} (c : Column t) (o : Operand t)
  | setBlank {t : ValueType} (c : Column t)
  | setComposite {α : Type} (c : CompositeColumn α) (v : α)
  | onConflict (conflict : Conflict)

/-- The INSERT after a call. -/
def run (i : Insert) : Call → Insert
  | .set c o => i.set c o
  | .setBlank c => i.setBlank c
  | .setComposite c v => i.setComposite c v
  | .onConflict conflict => i.onConflict conflict

/-- The INSERT put together by calls. -/
def ofCalls (table : Table) (calls : List Call) : Insert := calls.foldl run { table }

end Insert

/-! ## UPDATE -/

/-- An UPDATE that assigns nothing yet. -/
structure UpdateDraft where
  table : Table
  filter : Option Expr := none

/-- An UPDATE of some columns. -/
structure Update where
  table : Table
  assignments : Assignments
  filter : Option Expr
  touched : assignments.touched = true

namespace UpdateDraft

def andWhere (u : UpdateDraft) (p : Predicate) : UpdateDraft :=
  { u with filter := some (.andAlso u.filter p.expr) }

/-- The first assignment. -/
def set (u : UpdateDraft) (c : Column t) (o : Operand t) : Update where
  table := u.table
  assignments := ({} : Assignments).give u.table c.ref (o.toExpr c.descriptor)
  filter := u.filter
  touched := Assignments.touched_give _ _ _ _

end UpdateDraft

namespace Update

def andWhere (u : Update) (p : Predicate) : Update :=
  { u with filter := some (.andAlso u.filter p.expr) }

/-- One more assignment. -/
def set (u : Update) (c : Column t) (o : Operand t) : Update where
  table := u.table
  assignments := u.assignments.give u.table c.ref (o.toExpr c.descriptor)
  filter := u.filter
  touched := Assignments.touched_give _ _ _ _

/-- A call on an UPDATE that assigns something. -/
inductive Call where
  | set {t : ValueType} (c : Column t) (o : Operand t)
  | andWhere (p : Predicate)

/-- The UPDATE after a call. -/
def run (u : Update) : Call → Update
  | .set c o => u.set c o
  | .andWhere p => u.andWhere p

/-- The UPDATE with conditions before its first assignment, and calls behind it. -/
def ofCalls {t : ValueType} (table : Table) (before : List Predicate) (c : Column t)
    (o : Operand t) (calls : List Call) : Update :=
  calls.foldl run ((before.foldl UpdateDraft.andWhere { table }).set c o)

end Update

/-! ## DELETE -/

/-- The removal of rows that satisfy a condition, or of all rows. -/
structure Delete where
  table : Table
  filter : Option Expr

namespace Delete

def allRows (table : Table) : Delete := ⟨table, none⟩

def rowsWhere (table : Table) (p : Predicate) : Delete := ⟨table, some p.expr⟩

def andWhere (d : Delete) (p : Predicate) : Delete :=
  { d with filter := some (.andAlso d.filter p.expr) }

end Delete

/-- A query or a change. -/
inductive Statement where
  | query (q : Query)
  | insert (i : Insert)
  | update (u : Update)
  | delete (d : Delete)

/-- The result columns; a change has none. -/
def Statement.resultColumns : Statement → List ResultColumn
  | .query q => q.resultColumns
  | _ => []

end TypedSql
