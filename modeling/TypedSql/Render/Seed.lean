import TypedSql.Error.Statement
import TypedSql.Render.Query

/-!
# Seeds

Building a statement gives a seed: its text, one slot for each placeholder in the order of the
text, the positions of each token among the slots, and the result columns. A seed can be compiled
and run any number of times. The first mistake found keeps a statement from being built.
-/

namespace TypedSql

/-- A statement ready to be compiled. -/
structure Seed where
  sql : String
  params : List Slot
  /-- Where each token was written. -/
  registered : Positions
  columns : List ResultColumn

namespace Seed

/-- The positions a token was written at. -/
def positions (s : Seed) (id : ParamId) : List Nat := s.registered.get id

/-- The same contract under another text, which must have the same placeholders. -/
def withSql (s : Seed) (sql : String) : Seed := { s with sql }

/-- The query that counts the rows of this one. -/
def countRows (s : Seed) (id : SetId) : Seed where
  sql := "SELECT COUNT(*) FROM (" ++ s.sql ++ ")"
  params := s.params
  registered := s.registered
  columns := [⟨"count", (Expression.whole false).erase, ⟨id, "count"⟩, []⟩]

/-- The slots take values of the same description. -/
def sameSlot (a b : Slot) : Bool :=
  a.type.name == b.type.name && a.type.storageClass == b.type.storageClass
    && a.type.nullable == b.type.nullable

/-- Arguments of one seed can be used with the other. -/
def sameContract (a b : Seed) : Bool :=
  a.sql == b.sql && a.params.length == b.params.length
    && (a.params.zip b.params).all fun (x, y) => sameSlot x y

end Seed

/-- The seed of what was rendered, or the first mistake. -/
def Rendering.intoSeed (r : Rendering) (columns : List ResultColumn) : Except Error Seed :=
  let sql := r.writer.top.text
  match r.deferred with
  | [] => .ok ⟨sql, r.params, r.positions, columns⟩
  | .schema e :: _ => .error (.schema e)
  | .preset index type e :: _ => .error (.bind index type.name sql e)

/-- Builds a statement with the builders of a pool. -/
def Statement.buildWith (s : Statement) (p : Pool) (d : Dialect) : Except Error Seed × Pool :=
  let r := (s.render.run (.start p d)).2
  (r.intoSeed s.resultColumns, r.writer.finish)

/-- Builds a statement in standard SQL. -/
def Statement.build (s : Statement) : Except Error Seed := (s.buildWith (.new {}) .generic).1

/-! ## Views -/

namespace Relation

/-- A view of a query. The query must be free of mistakes and bind nothing, since a view is stored
without arguments. -/
def defineView (id : SetId) (name : String) (q : Select) : Except SchemaError Relation := do
  validateName name
  let r := (q.render.run (.start (.new {}) .generic)).2
  if let some e := r.schemaError? then throw e
  let n := r.params.length
  if 0 < n then
    throw (.invalidView name ("body binds " ++ toString n ++ " parameter(s)"))
  return .view id name q

end Relation

/-- Writes `CREATE VIEW` of a query. -/
def renderView (name : String) (q : Select) : Render := do
  Render.text "CREATE VIEW IF NOT EXISTS "
  Render.identifier name
  Render.text " AS "
  q.render

def createViewSql (d : Dialect) (name : String) (q : Select) : String :=
  ((renderView name q).run (.start (.new {}) d)).2.writer.top.text

def dropViewSql (d : Dialect) (name : String) : String := "DROP VIEW IF EXISTS " ++ d.spell name

end TypedSql
