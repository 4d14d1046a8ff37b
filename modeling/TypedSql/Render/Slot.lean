import TypedSql.Query.Syntax

/-!
# Slots

Every placeholder of a statement gets a slot when it is written, and the slots are numbered in that
order. For each token the numbers of its slots are kept beside them.
-/

namespace TypedSql

/-- What is known of a placeholder when the statement is run. -/
structure Slot where
  type : AnyDescriptor
  /-- The value the statement itself gives. -/
  preset : Option StorageValue
  /-- The token it was written for. -/
  param : Option ParamId

/-- Why a statement cannot be used. -/
inductive Fault where
  | schema (e : SchemaError)
  /-- The preset value of a slot cannot be stored. -/
  | preset (index : Nat) (type : AnyDescriptor) (e : ConversionError)

namespace Placeholder

/-- The preset value as the slot takes it, none for other placeholders. -/
def presetValue (p : Placeholder) : Except ConversionError (Option StorageValue) :=
  match p with
  | .preset type value => (value >>= type.acceptEncoded).map some
  | _ => .ok none

/-- The slot of a placeholder; a preset value that cannot be stored is left out. -/
def slot (p : Placeholder) : Slot where
  type := p.type
  preset := p.presetValue.toOption.join
  param := p.id?

end Placeholder

/-- The positions of each token among the slots. -/
abbrev Positions := List (ParamId × List Nat)

namespace Positions

/-- The positions of a token, none if it was not written. -/
def get (ps : Positions) (id : ParamId) : List Nat :=
  match ps with
  | [] => []
  | (other, is) :: rest => if other == id then is else get rest id

/-- Adds a position behind those of a token. -/
def push (ps : Positions) (id : ParamId) (i : Nat) : Positions :=
  match ps with
  | [] => [(id, [i])]
  | (other, is) :: rest =>
    if other == id then (other, is ++ [i]) :: rest else (other, is) :: push rest id i

/-- Adds the position of a slot, which may be that of no token. -/
def record (ps : Positions) (s : Slot) (i : Nat) : Positions :=
  match s.param with
  | some id => ps.push id i
  | none => ps

end Positions
end TypedSql
