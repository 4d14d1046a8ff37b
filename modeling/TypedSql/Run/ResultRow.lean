import TypedSql.Render.Seed
import TypedSql.Run.Row

/-!
# Typed result rows

A row delivered by an engine is read through the result columns of the seed that was run. A column
or projection is found by its identity, and else as what a result column was copied from.
-/

namespace TypedSql

/-- A row with the seed it is a result of. -/
structure ResultRow where
  row : Row
  seed : Seed

namespace ResultRow

variable {t : ValueType}

/-- The stored value at a position. -/
def raw (r : ResultRow) (i : Nat) : Except Error StorageValue := (r.row.value i).mapError .engine

/-- The name of a result column, as the seed, the engine or else its number gives it. -/
def columnName (r : ResultRow) (i : Nat) : String :=
  match r.seed.columns[i]? with
  | some c => c.name
  | none => (r.row.name? i).getD (toString i)

/-- An error of decoding the column at a position. -/
def decodeError (r : ResultRow) (i : Nat) (e : ConversionError) : Error :=
  .decode (r.columnName i) r.seed.sql e

/-- The position of a result column. -/
def locate (r : ResultRow) (key : ColumnKey) (display : String) : Except Error Nat :=
  match resultIndex? r.seed.columns key with
  | some i => .ok i
  | none => .error (.notInResult display r.seed.sql)

/-- Reads the column at a position. -/
def getAt (r : ResultRow) (i : Nat) (d : Descriptor t) : Except Error (Option t.Value) := do
  let v ← r.raw i
  (d.read v).mapError (r.decodeError i)

/-- Reads a selected column or projection. -/
def get (r : ResultRow) (target : Target t) : Except Error (Option t.Value) := do
  let i ← r.locate target.key target.display
  r.getAt i target.descriptor

/-- Reads a selected column or projection, with a value in place of NULL. -/
def getD (r : ResultRow) (target : Target t) (default : t.Value) : Except Error t.Value := do
  let i ← r.locate target.key target.display
  let v ← r.raw i
  if v.isNull then pure default
  else (target.descriptor.kind.decode v).mapError (r.decodeError i)

/-- Reads the components of a composite column; all of them NULL are no value. -/
def getComposite {α : Type} (r : ResultRow) (c : CompositeColumn α) :
    Except Error (Option α) := do
  let indexes ← c.parts.mapM fun part => r.locate part.key part.display
  let values ← indexes.mapM r.raw
  let first := indexes.head?.getD 0
  if values.all StorageValue.isNull then
    if c.nullable then pure none
    else throw (r.decodeError first (.unexpectedNull c.kind.name))
  else
    ((c.kind.join values).map some).mapError (r.decodeError first)

end ResultRow
end TypedSql
