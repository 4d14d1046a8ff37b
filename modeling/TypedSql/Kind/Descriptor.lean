import TypedSql.Kind.Conversion
import TypedSql.Library.Standard

/-!
# Descriptors

A descriptor is a kind together with the nullability of one column, parameter or expression. It
adds the treatment of NULL to the conversions of its kind: a nullable descriptor passes NULL
through, any other refuses it in both directions.

The erased form forgets the value type in its type, so that slots of different types can stand in
one list.
-/

namespace TypedSql

/-- A kind with nullability. -/
structure Descriptor (t : ValueType) where
  kind : Kind t
  nullable : Bool
deriving DecidableEq, Repr

namespace Descriptor

variable {t : ValueType}

def withNullable (d : Descriptor t) (nullable : Bool) : Descriptor t := { d with nullable }

/-- The stored form of a value, or of none. -/
def bindValue (d : Descriptor t) : Option t.Value → Except ConversionError StorageValue
  | some v => d.kind.encode v
  | none => if d.nullable then .ok .null else .error (.nullNotAllowed d.kind.name)

/-- The value of a stored form, none for NULL. -/
def read (d : Descriptor t) : StorageValue → Except ConversionError (Option t.Value)
  | .null => if d.nullable then .ok none else .error (.unexpectedNull d.kind.name)
  | v => (d.kind.decode v).map some

end Descriptor

/-- A descriptor of some value type. -/
structure AnyDescriptor where
  type : ValueType
  descriptor : Descriptor type
deriving DecidableEq, Repr

def Descriptor.erase {t : ValueType} (d : Descriptor t) : AnyDescriptor := ⟨t, d⟩

namespace AnyDescriptor

def name (d : AnyDescriptor) : String := d.descriptor.kind.name

def storageClass (d : AnyDescriptor) : StorageClass := d.descriptor.kind.storageClass

def declaredType (d : AnyDescriptor) : String := d.descriptor.kind.declaredType

def nullable (d : AnyDescriptor) : Bool := d.descriptor.nullable

/-- Takes a value that is encoded already, and asks only whether NULL is allowed. -/
def acceptEncoded (d : AnyDescriptor) (v : StorageValue) : Except ConversionError StorageValue :=
  if v.isNull && !d.nullable then .error (.nullNotAllowed d.name) else .ok v

/-- Takes any value the kind can read. -/
def coerce (d : AnyDescriptor) (v : StorageValue) : Except ConversionError StorageValue :=
  if v.isNull then d.acceptEncoded v else d.descriptor.kind.coerce v

theorem acceptEncoded_eq_ok {d : AnyDescriptor} {v w : StorageValue}
    (h : d.acceptEncoded v = .ok w) : w = v ∧ (v.isNull = true → d.nullable = true) := by
  simp only [acceptEncoded] at h
  split at h
  · cases h
  · cases h
    exact ⟨rfl, by simp_all⟩

end AnyDescriptor
end TypedSql
