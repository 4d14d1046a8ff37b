import TypedSql.Dialect
import TypedSql.Kind.Composite
import TypedSql.Schema.Column

/-!
# Tables and their definition

A table is defined column by column on a draft. A column starts nullable and without constraints
and is modified step by step before it is added; its name must be valid and differ from the names
already there, case aside. A draft with a valid name and at least one column becomes a table.
-/

namespace TypedSql

/-- A named list of columns. -/
structure Table where
  id : SetId
  name : String
  columns : List ColumnRef

namespace Table

/-- The same table, whatever it is called. -/
def same (a b : Table) : Bool := a.id == b.id

def column? (t : Table) (name : String) : Option ColumnRef := t.columns.find? (·.name == name)

/-- The tables its foreign keys refer to, itself apart. -/
def references (t : Table) : List SetId :=
  (t.columns.filterMap fun c => c.constraints.foreignKey.map ForeignKey.tableId).filter
    (· != t.id)

theorem mem_references {t : Table} {id : SetId} :
    id ∈ t.references ↔ id ≠ t.id ∧ ∃ c ∈ t.columns, ∃ fk,
      c.constraints.foreignKey = some fk ∧ fk.tableId = id := by
  rw [references, List.mem_filter, List.mem_filterMap, and_comm]
  simp only [bne_iff_ne, Option.map_eq_some_iff]

end Table

/-! ## Column definitions -/

/-- A column to be added to a table. -/
structure ColumnSpec (t : ValueType) where
  name : String
  kind : Kind t
  nullable : Bool := true
  constraints : Constraints := {}
  default : Option t.Value := none
  /-- A mistake made on the way; the last one counts. -/
  error : Option SchemaError := none

/-- One step of a column definition. -/
inductive ColumnModifier (t : ValueType) where
  | notNull
  | nullable
  | primaryKey
  | unique
  | autoIncrement
  | default (value : t.Value)
  | references (target : ColumnRef)
  | onDelete (action : ForeignKeyAction)
  | onUpdate (action : ForeignKeyAction)

namespace ColumnSpec

variable {t : ValueType}

/-- Replaces the foreign key, if there is one. -/
def updateForeignKey (s : ColumnSpec t) (f : ForeignKey → ForeignKey) : ColumnSpec t :=
  { s with constraints.foreignKey := s.constraints.foreignKey.map f }

/-- Takes one step. A primary key is not nullable unless a later step makes it so; only columns of
tables can be referenced; an action without a reference in front of it is lost. -/
def apply (s : ColumnSpec t) : ColumnModifier t → ColumnSpec t
  | .notNull => { s with nullable := false }
  | .nullable => { s with nullable := true }
  | .primaryKey => { s with constraints.primaryKey := true, nullable := false }
  | .unique => { s with constraints.unique := true }
  | .autoIncrement => { s with constraints.autoIncrement := true }
  | .default value => { s with default := some value }
  | .references target =>
    if target.isTableColumn then
      let fk : ForeignKey :=
        { tableId := target.key.set, table := target.qualifier, column := target.name }
      { s with constraints.foreignKey := some fk }
    else { s with error := some (.invalidReference target.display) }
  | .onDelete action => s.updateForeignKey fun fk => { fk with onDelete := some action }
  | .onUpdate action => s.updateForeignKey fun fk => { fk with onUpdate := some action }

def descriptor (s : ColumnSpec t) : Descriptor t := ⟨s.kind, s.nullable⟩

/-- The stored default. It must have a literal, and NaN has none. -/
def storedDefault (s : ColumnSpec t) : Except SchemaError (Option StorageValue) :=
  match s.default with
  | none => .ok none
  | some value =>
    match s.descriptor.bindValue (some value) with
    | .error e => .error (.invalidDefault s.name e.message)
    | .ok (.real x) =>
      if x.isNaN then .error (.invalidDefault s.name "NaN has no SQL literal")
      else .ok (some (.real x))
    | .ok v => .ok (some v)

end ColumnSpec

/-! ## Drafts -/

/-- A table under construction. -/
structure TableDraft where
  id : SetId
  name : String
  columns : List ColumnRef := []

/-- A value stored across several columns of a table. -/
structure CompositeColumn (α : Type) where
  kind : CompositeKind α
  name : String
  nullable : Bool
  /-- The columns of the components in storage order. -/
  parts : List ColumnRef

namespace TableDraft

/-- A new column's name is valid and not taken. -/
def checkName (d : TableDraft) (name : String) : Except SchemaError Unit := do
  validateName name
  if d.columns.any (Text.sameName ·.name name) then throw (.duplicateColumn d.name name)

/-- A column of this table. -/
def newColumn (d : TableDraft) (name : String) (type : AnyDescriptor)
    (constraints : Constraints) : ColumnRef where
  key := ⟨d.id, name⟩
  qualifier := d.name
  type := type
  constraints := constraints

/-- Adds a column. -/
def add {t : ValueType} (d : TableDraft) (s : ColumnSpec t) :
    Except SchemaError (Column t × TableDraft) := do
  if let some e := s.error then throw e
  d.checkName s.name
  let default ← s.storedDefault
  let ref := d.newColumn s.name s.descriptor.erase { s.constraints with default }
  return (⟨ref, s.descriptor⟩, { d with columns := d.columns ++ [ref] })

/-- Adds a column for every component, named after the composite column and the component. -/
def addComposite {α : Type} (d : TableDraft) (name : String) (kind : CompositeKind α)
    (nullable : Bool) : Except SchemaError (CompositeColumn α × TableDraft) := do
  let named := (kind.components nullable).map fun c => (name ++ "_" ++ c.suffix, c.type)
  named.forM fun (part, _) => d.checkName part
  let parts := named.map fun (part, type) => d.newColumn part type {}
  return (⟨kind, name, nullable, parts⟩, { d with columns := d.columns ++ parts })

/-- Finishes the table. -/
def build (d : TableDraft) : Except SchemaError Table := do
  validateName d.name
  if d.columns.isEmpty then throw (.emptyTable d.name)
  return ⟨d.id, d.name, d.columns⟩

end TableDraft
end TypedSql
