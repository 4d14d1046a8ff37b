import TypedSql.Error.Statement
import TypedSql.Kind.Descriptor

/-!
# Rows as an engine delivers them

An engine shows one row of a result at a time: how many columns it has, what they are called, and
the stored value of each. The accessors read a column of a definite storage class; they widen
integers to reals and convert nothing else.
-/

namespace TypedSql

/-- One row of a result. -/
structure Row where
  count : Nat
  name? : Nat → Option String
  value : Nat → Except EngineError StorageValue

namespace Row

/-- The row of the given values. -/
def ofValues (names : List String) (values : List StorageValue) : Row where
  count := values.length
  name? i := names[i]?
  value i :=
    match values[i]? with
    | some v => .ok v
    | none => .error ⟨"no column " ++ toString i, some 25⟩

def isNull (r : Row) (i : Nat) : Except EngineError Bool := (r.value i).map StorageValue.isNull

/-- The error of a column that holds another storage class. -/
def mismatch (i : Nat) (expected : String) (found : StorageValue) : EngineError :=
  ⟨"column " ++ toString i ++ " holds " ++ found.className ++ ", not " ++ expected, none⟩

def int64? (r : Row) (i : Nat) : Except EngineError (Option Int64) := do
  match ← r.value i with
  | .null => pure none
  | .integer n => pure (some n)
  | v => throw (mismatch i "integer" v)

def float? (r : Row) (i : Nat) : Except EngineError (Option Float) := do
  match ← r.value i with
  | .null => pure none
  | .real x => pure (some x)
  | .integer n => pure (some n.toFloat)
  | v => throw (mismatch i "real" v)

def text? (r : Row) (i : Nat) : Except EngineError (Option String) := do
  match ← r.value i with
  | .null => pure none
  | .text s => pure (some s)
  | v => throw (mismatch i "text" v)

def blob? (r : Row) (i : Nat) : Except EngineError (Option (List UInt8)) := do
  match ← r.value i with
  | .null => pure none
  | .blob bytes => pure (some bytes)
  | v => throw (mismatch i "blob" v)

end Row

/-- Reads a column of a row through a descriptor. -/
def Descriptor.readColumn {t : ValueType} (d : Descriptor t) (r : Row) (i : Nat) :
    Except Error (Option t.Value) :=
  match r.value i with
  | .ok v => (d.read v).mapError .conversion
  | .error e => .error (.engine e)

end TypedSql
