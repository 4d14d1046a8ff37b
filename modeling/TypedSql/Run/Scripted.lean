import TypedSql.Run.Compiled

/-!
# A scripted engine

An engine that answers from a script instead of a database: it delivers given rows, reports given
counts, and fails where the script says so. It keeps a record of what it was asked to do.
-/

namespace TypedSql

/-- A failure at a point: a position, a row, or a number of statements run. -/
structure Failure where
  error : EngineError
  point : Nat := 0

/-- What a scripted engine does. -/
structure Script where
  dialect : Dialect := .generic
  names : List String := []
  rows : List (List StorageValue) := []
  execution : Execution := {}
  failPrepare : Option EngineError := none
  failBind : Option Failure := none
  failExecute : Option EngineError := none
  failQuery : Option Failure := none
  failBatch : Option Failure := none

/-- A scripted engine and its record: the values bound in order, and the texts run. -/
structure Scripted where
  script : Script
  bound : List (Nat × StorageValue) := []
  batches : List String := []

namespace Scripted

/-- Shows the rows from number `i` on; the failure comes before the row it is set for, or after
the last row. -/
def visitFrom {β : Type} (s : Script) (visit : Visitor Row β) (i : Nat) :
    List (List StorageValue) → β → Except Error Unit × β
  | [], b =>
    match s.failQuery with
    | some f => if i ≤ f.point then (.error (.engine f.error), b) else (.ok (), b)
    | none => (.ok (), b)
  | row :: rest, b =>
    match s.failQuery.filter (·.point == i) with
    | some f => (.error (.engine f.error), b)
    | none =>
      match visit (.ofValues s.names row) b with
      | (.ok true, b) => visitFrom s visit (i + 1) rest b
      | (.ok false, b) => (.ok (), b)
      | (.error e, b) => (.error e, b)

instance : Handle Scripted where
  bind i v h :=
    match h.script.failBind.filter (·.point == i) with
    | some f => (.error f.error, h)
    | none => (.ok (), { h with bound := h.bound ++ [(i, v)] })
  execute h :=
    match h.script.failExecute with
    | some e => (.error e, h)
    | none => (.ok h.script.execution, h)
  query visit b h := (visitFrom h.script visit 0 h.script.rows b, h)

instance : Engine Scripted Scripted where
  prepare engine _ :=
    match engine.script.failPrepare with
    | some e => .error e
    | none => .ok engine
  executeBatch sql engine :=
    match engine.script.failBatch.filter (·.point == engine.batches.length) with
    | some f => (.error f.error, engine)
    | none => (.ok (), { engine with batches := engine.batches ++ [sql] })
  dialect engine := engine.script.dialect

/-- The handle with an empty record. -/
def forget (s : Scripted) : Scripted := { s with bound := [] }

end Scripted
end TypedSql
