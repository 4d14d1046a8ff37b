import TypedSql.Render.Seed
import TypedSql.Storage.Plain

/-!
# Arguments

The values for one run of a seed, slot by slot. Slots start with the preset values of the
statement; every other one is empty until a value is bound. A value is converted when it is bound,
so that an error names the slot it was meant for.

Binding by token stores the value at every position of the token. Positions are taken in order, and
those in front of one that refuses keep what they were given.
-/

namespace TypedSql

/-- Values for the slots of a seed. -/
structure Arguments where
  seed : Seed
  slots : List (Option StorageValue)

namespace Arguments

def new (seed : Seed) : Arguments := ⟨seed, seed.params.map Slot.preset⟩

/-- What a binding leaves behind: the arguments, and the error if it failed. -/
abbrev Binding := Except Error Unit × Arguments

/-- Stores a converted value in a slot. -/
def storeWith (a : Arguments) (i : Nat) (v : StorageValue)
    (convert : AnyDescriptor → StorageValue → Except ConversionError StorageValue) : Binding :=
  match a.seed.params[i]? with
  | none => (.error (.parameterIndex i a.slots.length a.seed.sql), a)
  | some slot =>
    match convert slot.type v with
    | .ok v => (.ok (), { a with slots := a.slots.set i (some v) })
    | .error e => (.error (.bind i slot.type.name a.seed.sql e), a)

/-- Stores at every position until one refuses. -/
def storeAll (a : Arguments) (v : StorageValue)
    (convert : AnyDescriptor → StorageValue → Except ConversionError StorageValue) :
    List Nat → Binding
  | [] => (.ok (), a)
  | i :: rest =>
    match a.storeWith i v convert with
    | (.ok (), a) => a.storeAll v convert rest
    | failed => failed

/-- Binds by position. -/
def set (a : Arguments) (i : Nat) (v : PlainValue) : Binding :=
  a.storeWith i v.toStorage AnyDescriptor.coerce

/-- Binds NULL by position. -/
def setNull (a : Arguments) (i : Nat) : Binding := a.storeWith i .null AnyDescriptor.coerce

/-- Binds a value of the token's type, encoded under the token's descriptor. -/
def bind {t : ValueType} (a : Arguments) (p : Param t) (v : Option t.Value) : Binding :=
  match a.seed.positions p.id with
  | [] => (.error (.unknownParameter a.seed.sql), a)
  | i :: rest =>
    match p.descriptor.bindValue v with
    | .ok v => a.storeAll v AnyDescriptor.acceptEncoded (i :: rest)
    | .error e => (.error (.bind i p.descriptor.kind.name a.seed.sql e), a)

/-- Binds a plain value by token. -/
def bindPlain (a : Arguments) (id : ParamId) (v : PlainValue) : Binding :=
  match a.seed.positions id with
  | [] => (.error (.unknownParameter a.seed.sql), a)
  | positions => a.storeAll v.toStorage AnyDescriptor.coerce positions

/-- Gives the values back their presets, one slot after the other. -/
def restore : List (Option StorageValue) → List Slot → List (Option StorageValue)
  | _ :: values, slot :: slots => slot.preset :: restore values slots
  | values, _ => values

/-- Back to the preset values. -/
def reset (a : Arguments) : Arguments := { a with slots := restore a.slots a.seed.params }

def isComplete (a : Arguments) : Bool := a.slots.all Option.isSome

/-- The values from position `i` on. -/
def valuesFrom (sql : String) (i : Nat) :
    List (Option StorageValue) → Except Error (List StorageValue)
  | [] => .ok []
  | none :: _ => .error (.unbound i sql)
  | some v :: rest => (valuesFrom sql (i + 1) rest).map (v :: ·)

/-- The values in order; an empty slot is an error. -/
def values (a : Arguments) : Except Error (List StorageValue) :=
  valuesFrom a.seed.sql 0 a.slots

/-- The values in order, NULL for an empty slot. -/
def snapshot (a : Arguments) : List StorageValue := a.slots.map (·.getD .null)

end Arguments
end TypedSql
