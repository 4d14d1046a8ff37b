import TypedSql.Dialect
import TypedSql.Render.Slot

/-!
# Pieces of a statement

What rendering does to a statement can be told before any dialect is chosen, as a row of pieces:
literal text, names, placeholders, and the mistakes found on the way. Text, slots and errors are
read off the pieces one by one, each without regard to the others.
-/

namespace TypedSql

/-- A piece of a rendered statement. -/
inductive Piece where
  | text (s : String)
  /-- A name, to be spelled by the dialect. -/
  | name (n : String)
  /-- A placeholder, to be marked by the dialect. -/
  | slot (p : Placeholder)
  /-- A mistake; it leaves no text. -/
  | fault (e : SchemaError)
  /-- The start of a nested query, written with a parenthesis. -/
  | enter
  /-- The end of a nested query. -/
  | leave

namespace Piece

/-- How a piece is written. -/
def sql (d : Dialect) : Piece → String
  | .text s => s
  | .name n => d.spell n
  | .slot _ => d.placeholder
  | .fault _ => ""
  | .enter => "("
  | .leave => ")"

/-- The text of a row of pieces. -/
def sqlText (d : Dialect) (ps : List Piece) : String := String.join (ps.map (sql d))

def slot? : Piece → Option Placeholder
  | .slot p => some p
  | _ => none

/-- The placeholders in the order of the text. -/
def slots (ps : List Piece) : List Placeholder := ps.filterMap slot?

/-- The mistakes in order; `index` slots come before. -/
def faultsFrom (index : Nat) : List Piece → List Fault
  | [] => []
  | .fault e :: rest => .schema e :: faultsFrom index rest
  | .slot p :: rest =>
    match p.presetValue with
    | .ok _ => faultsFrom (index + 1) rest
    | .error e => .preset index p.type e :: faultsFrom (index + 1) rest
  | _ :: rest => faultsFrom index rest

def faults (ps : List Piece) : List Fault := faultsFrom 0 ps

/-- The first configuration mistake. -/
def schemaError? (ps : List Piece) : Option SchemaError :=
  (faults ps).findSome? fun
    | .schema e => some e
    | .preset .. => none

/-! ## Composition -/

/-- Rows of pieces with a separator between them. -/
def separated (separator : String) : List (List Piece) → List Piece
  | [] => []
  | [ps] => ps
  | ps :: rest => ps ++ .text separator :: separated separator rest

def parenthesised (ps : List Piece) : List Piece := .text "(" :: ps ++ [.text ")"]

/-- Puts parentheses around the pieces where they are needed. -/
def guarded (needed : Bool) (ps : List Piece) : List Piece :=
  if needed then parenthesised ps else ps

def nested (ps : List Piece) : List Piece := .enter :: ps ++ [.leave]

/-- A name with its qualifier, if there is one. -/
def qualified (qualifier name : String) : List Piece :=
  if qualifier.isEmpty then [.name name] else [.name qualifier, .text ".", .name name]

end Piece
end TypedSql
