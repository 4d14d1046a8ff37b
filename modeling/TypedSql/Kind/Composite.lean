import TypedSql.Kind.Descriptor

/-!
# Composite kinds

A value of a composite kind is stored across several columns, one for each component. `split`
takes it apart, `join` puts stored components together again; both may refuse.
-/

namespace TypedSql

/-- One column of a composite kind. -/
structure Component where
  /-- What is appended to the name of the composite column. -/
  suffix : String
  type : AnyDescriptor
deriving DecidableEq, Repr

/-- A kind of values stored in several columns. -/
structure CompositeKind (α : Type) where
  name : String
  /-- The components in storage order, for a nullable or a non-nullable column. -/
  components : Bool → List Component
  /-- The stored components of a value; missing ones at the end are NULL. -/
  split : α → Except ConversionError (List StorageValue)
  /-- The value of stored components, not all NULL. -/
  join : List StorageValue → Except ConversionError α

namespace CompositeKind

section OffsetTimestamp

variable [lib : Libraries]

/-- A number of 32 bits out of 64, if it fits. -/
def int32? (n : Int64) : Option Int32 :=
  if -2147483648 ≤ n.toInt ∧ n.toInt ≤ 2147483647 then some n.toInt32 else none

/-- The instant and the offset of two stored components. -/
def joinOffset : List StorageValue → Except ConversionError lib.calendar.OffsetInstant
  | [ms, seconds] => do
    let ms ← ms.toInt64 "offset timestamp"
    let seconds ← seconds.toInt64 "offset timestamp"
    match (int32? seconds).bind lib.calendar.offset? with
    | none => .error (.outOfRange "offset timestamp" (toString seconds.toInt))
    | some offset =>
      match lib.calendar.ofMillis? ms with
      | none => .error (.outOfRange "offset timestamp" (toString ms.toInt))
      | some instant => .ok (lib.calendar.withOffset instant offset)
  | parts => .error (.outOfRange "offset timestamp" (toString parts.length ++ " components"))

/-- An instant in milliseconds of UTC and its offset in seconds. -/
def offsetTimestamp : CompositeKind lib.calendar.OffsetInstant where
  name := "offset timestamp"
  components nullable :=
    [⟨"utc_ms", (⟨.int64, nullable⟩ : Descriptor .int64).erase⟩,
     ⟨"offset_s", (⟨.int32, nullable⟩ : Descriptor .int32).erase⟩]
  split v := .ok
    [.integer (lib.calendar.millis v),
     .integer (lib.calendar.eastSeconds (lib.calendar.offset v)).toInt64]
  join := joinOffset

end OffsetTimestamp

/-- A range of integers from `low` to `high`. -/
structure Span where
  low : Int64
  high : Int64
deriving DecidableEq, Repr

/-- A range that ends before it starts cannot be stored; one of a single number has no end. -/
def splitSpan (v : Span) : Except ConversionError (List StorageValue) :=
  if v.high.toInt < v.low.toInt then
    .error (.outOfRange "span" (toString v.low.toInt ++ ".." ++ toString v.high.toInt))
  else if v.low = v.high then .ok [.integer v.low]
  else .ok [.integer v.low, .integer v.high]

def joinSpan : List StorageValue → Except ConversionError Span
  | [.integer low, .integer high] => .ok ⟨low, high⟩
  | [.integer low, .null] => .ok ⟨low, low⟩
  | parts => .error (.incompatible "span" ((parts.head?.map StorageValue.className).getD "NULL"))

/-- A range of integers; the column of the end is nullable always. -/
def span : CompositeKind Span where
  name := "span"
  components nullable :=
    [⟨"lo", (⟨.int64, nullable⟩ : Descriptor .int64).erase⟩,
     ⟨"hi", (⟨.int64, true⟩ : Descriptor .int64).erase⟩]
  split := splitSpan
  join := joinSpan

end CompositeKind

/-- The types of values with a composite kind. -/
inductive CompositeType where
  | offsetTimestamp
  | span
deriving DecidableEq, Repr

namespace CompositeType

/-- The values of a type. -/
abbrev Value : CompositeType → Type
  | .offsetTimestamp => OffsetInstant
  | .span => CompositeKind.Span

/-- The kind of a type's values. -/
def kind : (t : CompositeType) → CompositeKind t.Value
  | .offsetTimestamp => .offsetTimestamp
  | .span => .span

end CompositeType
end TypedSql
