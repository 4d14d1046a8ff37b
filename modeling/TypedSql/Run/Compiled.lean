import TypedSql.Run.Arguments
import TypedSql.Run.ResultRow
import TypedSql.Schema.CreationOrder
import TypedSql.Schema.Definition

/-!
# Running statements

An engine compiles text into a handle. A handle keeps what was bound at each position, runs the
statement, and shows the rows of a result one by one to a visitor until the visitor has seen
enough. Every run first checks that the arguments belong to the statement and are complete, then
binds all of them, then runs. An error of the engine is reported with the text and the values.
-/

namespace TypedSql

/-- What a change has done. -/
structure Execution where
  rowsAffected : Nat := 0
  lastInsertId : Option Int64 := none
deriving DecidableEq, Repr

/-- A computation that keeps its state when it fails. -/
abbrev Attempt (σ ε α : Type) := σ → Except ε α × σ

/-- Looks at a row; `true` asks for the next one. -/
abbrev Visitor (ρ β : Type) := ρ → Attempt β Error Bool

/-- The operations of a compiled handle of type `σ`. -/
class Handle (σ : Type) where
  /-- Binds a value at a position. -/
  bind : Nat → StorageValue → Attempt σ EngineError Unit
  /-- Runs a statement without rows. -/
  execute : Attempt σ EngineError Execution
  /-- Runs a query; the state of the visitor is carried along and survives an error. -/
  query : {β : Type} → Visitor Row β → β → σ → (Except Error Unit × β) × σ

/-- A seed with the handle compiled from it. -/
structure Compiled (σ : Type) where
  seed : Seed
  handle : σ

namespace Compiled

variable {σ β : Type}

/-- The values of arguments that belong to the statement. -/
def check (c : Compiled σ) (a : Arguments) : Except Error (List StorageValue) :=
  if c.seed.sameContract a.seed then a.values else .error (.seedMismatch c.seed.sql a.seed.sql)

variable [Handle σ]

/-- Binds values from position `i` on until one is refused. -/
def bindFrom (i : Nat) : List StorageValue → Attempt σ EngineError Unit
  | [], h => (.ok (), h)
  | v :: rest, h =>
    match Handle.bind i v h with
    | (.ok (), h) => bindFrom (i + 1) rest h
    | failed => failed

/-- Runs a statement without rows. -/
def execute (c : Compiled σ) (a : Arguments) : Except Error Execution × Compiled σ :=
  match c.check a with
  | .error e => (.error e, c)
  | .ok values =>
    match bindFrom 0 values c.handle with
    | (.error e, h) => (.error (.execution c.seed.sql values e), { c with handle := h })
    | (.ok (), h) =>
      let (r, h) := Handle.execute h
      (r.mapError (.execution c.seed.sql values), { c with handle := h })

/-- Puts an error of the engine into the context of the statement. -/
def inContext (c : Compiled σ) (values : List StorageValue) : Error → Error
  | .engine e => .execution c.seed.sql values e
  | e => e

/-- Runs a query. -/
def query (c : Compiled σ) (a : Arguments) (visit : Visitor ResultRow β) (b : β) :
    (Except Error Unit × β) × Compiled σ :=
  match c.check a with
  | .error e => ((.error e, b), c)
  | .ok values =>
    match bindFrom 0 values c.handle with
    | (.error e, h) =>
      ((.error (.execution c.seed.sql values e), b), { c with handle := h })
    | (.ok (), h) =>
      let ((r, b), h) := Handle.query (fun row => visit ⟨row, c.seed⟩) b h
      ((r.mapError (c.inContext values), b), { c with handle := h })

/-- Reads the first row, if there is one. -/
def queryFirst {α : Type} (c : Compiled σ) (a : Arguments)
    (read : ResultRow → Except Error α) : Except Error (Option α) × Compiled σ :=
  let visit : Visitor ResultRow (Option α) := fun row found =>
    match found with
    | some v => (.ok false, some v)
    | none =>
      match read row with
      | .ok v => (.ok false, some v)
      | .error e => (.error e, none)
  let ((r, found), c) := c.query a visit none
  (r.map fun _ => found, c)

/-- Reads every row. -/
def queryAll {α : Type} (c : Compiled σ) (a : Arguments)
    (read : ResultRow → Except Error α) : Except Error (List α) × Compiled σ :=
  let visit : Visitor ResultRow (List α) := fun row found =>
    match read row with
    | .ok v => (.ok true, found ++ [v])
    | .error e => (.error e, found)
  let ((r, found), c) := c.query a visit []
  (r.map fun _ => found, c)

end Compiled

/-! ## Engines -/

/-- The operations of an engine of type `ε`, whose handles are of type `σ`. -/
class Engine (ε : Type) (σ : outParam Type) where
  /-- Compiles text. -/
  prepare : ε → String → Except EngineError σ
  /-- Runs statements without parameters. -/
  executeBatch : String → Attempt ε EngineError Unit
  /-- How to write text for the engine. -/
  dialect : ε → Dialect

namespace Engine

variable {ε σ : Type} [Engine ε σ]

/-- Compiles a seed. -/
def compile (engine : ε) (s : Seed) : Except Error (Compiled σ) :=
  match prepare engine s.sql with
  | .ok handle => .ok ⟨s, handle⟩
  | .error e => .error (.execution s.sql [] e)

/-- Runs the definitions of tables until one is refused. -/
def createEach : List Table → Attempt ε Error Unit
  | [], engine => (.ok (), engine)
  | t :: rest, engine =>
    let sql := t.createSql (dialect engine)
    match executeBatch sql engine with
    | (.ok (), engine) => createEach rest engine
    | (.error e, engine) => (.error (.execution sql [] e), engine)

/-- Creates tables, referenced ones first; answers with the order. -/
def createTables (engine : ε) (tables : List Table) : Except Error (List Table) × ε :=
  match creationOrder tables with
  | .error e => (.error (.schema e), engine)
  | .ok ordered =>
    let (r, engine) := createEach ordered engine
    (r.map fun _ => ordered, engine)

end Engine
end TypedSql
