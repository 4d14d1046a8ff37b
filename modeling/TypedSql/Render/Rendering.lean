import TypedSql.Dialect
import TypedSql.Render.Slot
import TypedSql.Render.Writer

/-!
# Rendering

What is known while a statement is rendered: the dialect, the builders the text is written into,
the slots so far with the positions of each token, the mistakes noticed, and the sources of the
enclosing queries. Rendering is a row of calls that change this state: texts and names are written,
placeholders are registered and marked, mistakes are kept for the end.
-/

namespace TypedSql

/-- What the columns in a query are looked up in. -/
structure Scope where
  name : String
  columns : List ColumnRef

/-- The state of rendering one statement. -/
structure Rendering where
  dialect : Dialect
  writer : Writer
  params : List Slot := []
  positions : Positions := []
  deferred : List Fault := []
  /-- The sources of the enclosing queries, the innermost first. -/
  scopes : List Scope := []

namespace Rendering

/-- Takes a first builder from the pool. -/
def start (p : Pool) (d : Dialect) : Rendering := { dialect := d, writer := .start p }

def write (r : Rendering) (s : String) : Rendering := { r with writer := r.writer.push s }

/-- Keeps a mistake for the end. -/
def defer (r : Rendering) (f : Fault) : Rendering := { r with deferred := r.deferred ++ [f] }

def enter (r : Rendering) : Rendering := { r with writer := r.writer.enter }

def leave (r : Rendering) : Rendering := { r with writer := r.writer.leave }

def enterScope (r : Rendering) (s : Scope) : Rendering := { r with scopes := s :: r.scopes }

def leaveScope (r : Rendering) : Rendering := { r with scopes := r.scopes.tail }

/-- Adds a slot, and its position to those of its token. -/
def addSlot (r : Rendering) (s : Slot) : Rendering :=
  { r with
    params := r.params ++ [s]
    positions := r.positions.record s r.params.length }

/-- Gives a placeholder its slot. A preset value that cannot be stored is a mistake, and the slot
goes without it. -/
def register (r : Rendering) (p : Placeholder) : Rendering :=
  match p.presetValue with
  | .ok value => r.addSlot ⟨p.type, value, p.id?⟩
  | .error e => (r.defer (.preset r.params.length p.type e)).addSlot ⟨p.type, none, p.id?⟩

/-- The first configuration mistake. -/
def schemaError? (r : Rendering) : Option SchemaError :=
  r.deferred.findSome? fun
    | .schema e => some e
    | .preset .. => none

end Rendering

/-- A part of rendering a statement. -/
abbrev Render := StateM Rendering Unit

namespace Render

def text (s : String) : Render := modify (·.write s)

/-- Writes a name as the dialect spells it. -/
def identifier (name : String) : Render := modify fun r => r.write (r.dialect.spell name)

/-- Writes a name with its qualifier, if there is one. -/
def qualified (qualifier name : String) : Render :=
  if qualifier.isEmpty then identifier name
  else do
    identifier qualifier
    text "."
    identifier name

/-- Registers a placeholder and writes its mark. -/
def placeholder (p : Placeholder) : Render :=
  modify fun r => (r.register p).write r.dialect.placeholder

def defer (e : SchemaError) : Render := modify (·.defer (.schema e))

def deferAll : List SchemaError → Render
  | [] => pure ()
  | e :: rest => do
    defer e
    deferAll rest

/-- Notices a column that no enclosing query can see. Outside all queries, every column passes. -/
def checkScope (c : ColumnRef) : Render := do
  match (← get).scopes with
  | [] => pure ()
  | innermost :: outer =>
    if (innermost :: outer).any fun s => containsKey s.columns c.key then pure ()
    else defer (.columnNotInSet c.display innermost.name)

/-- Makes the columns of a source visible to a part of the statement. -/
def within (s : Scope) (body : Render) : Render := do
  modify (·.enterScope s)
  body
  modify (·.leaveScope)

/-- Writes a nested query into a builder of its own. -/
def nested (body : Render) : Render := do
  modify (·.enter)
  body
  modify (·.leave)

/-- Puts parentheses around a part where they are needed. -/
def guarded (needed : Bool) (body : Render) : Render :=
  if needed then do
    text "("
    body
    text ")"
  else body

/-- Parts with a separator between them. -/
def separated (separator : String) : List Render → Render
  | [] => pure ()
  | [body] => body
  | body :: rest => do
    body
    text separator
    separated separator rest

/-- A clause with its keyword, nothing if there are no parts. -/
def clause (keyword : String) : List Render → Render
  | [] => pure ()
  | parts => do
    text keyword
    separated ", " parts

end Render
end TypedSql
