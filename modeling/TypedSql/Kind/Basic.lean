import TypedSql.Library.Basic
import TypedSql.Number.Decimal.Basic
import TypedSql.Storage.Value

/-!
# Value types and kinds

A value type says which values an expression produces; a kind says how values of a type are
stored. Most types have one kind. A decimal is stored as an integer count of units of its last
place, so its kind fixes the number of places; a member of an enumeration is stored either by its
position or by its name.
-/

namespace TypedSql

/-- The persistent names of an enumeration, in the order of their positions. -/
structure Enumeration where
  variants : List String
deriving DecidableEq, Repr

/-- A member of an enumeration is known by its name. A member need not be listed. -/
structure Enumeration.Variant (e : Enumeration) where
  name : String
deriving DecidableEq, Repr

namespace Enumeration

/-- The position of a member, 0 for one that is not listed. -/
def ordinal (e : Enumeration) (v : e.Variant) : Nat :=
  (e.variants.findIdx? (· == v.name)).getD 0

/-- The listed member of that name. -/
def named? (e : Enumeration) (name : String) : Option e.Variant :=
  (e.variants.find? (· == name)).map Variant.mk

/-- The member at that position. -/
def at? (e : Enumeration) (i : Int) : Option e.Variant :=
  if i < 0 then none else e.variants[i.toNat]?.map Variant.mk

end Enumeration

/-- The type of the values an expression produces. -/
inductive ValueType where
  | int8
  | int16
  | int32
  | int64
  | float32
  | float64
  | bool
  | text
  | blob
  | decimal
  | uuid
  | date
  | time
  | dateTime
  | timestamp
  | enumeration (e : Enumeration)
deriving DecidableEq, Repr

namespace ValueType

/-- The values of a type; dates, decimals and identifiers are those of the libraries. -/
abbrev Value [lib : Libraries] : ValueType → Type
  | .int8 => Int8
  | .int16 => Int16
  | .int32 => Int32
  | .int64 => Int64
  | .float32 => Float32
  | .float64 => Float
  | .bool => Bool
  | .text => String
  | .blob => List UInt8
  | .decimal => lib.decimals.Decimal
  | .uuid => lib.uuids.Uuid
  | .date => lib.calendar.Date
  | .time => lib.calendar.Time
  | .dateTime => lib.calendar.DateTime
  | .timestamp => lib.calendar.Instant
  | .enumeration e => e.Variant

end ValueType

/-- A way of storing the values of a type. -/
inductive Kind : ValueType → Type where
  | int8 : Kind .int8
  | int16 : Kind .int16
  | int32 : Kind .int32
  | int64 : Kind .int64
  | float32 : Kind .float32
  | float64 : Kind .float64
  | bool : Kind .bool
  | text : Kind .text
  | blob : Kind .blob
  | decimal (scale : Scale) : Kind .decimal
  | uuid : Kind .uuid
  | date : Kind .date
  | time : Kind .time
  | dateTime : Kind .dateTime
  | timestamp : Kind .timestamp
  | ordinal (e : Enumeration) : Kind (.enumeration e)
  | named (e : Enumeration) : Kind (.enumeration e)
deriving DecidableEq, Repr

namespace Kind

variable {t : ValueType}

/-- The name of a kind in messages. -/
def name : Kind t → String
  | .int8 => "i8"
  | .int16 => "i16"
  | .int32 => "i32"
  | .int64 => "i64"
  | .float32 => "f32"
  | .float64 => "f64"
  | .bool => "bool"
  | .text => "text"
  | .blob => "blob"
  | .decimal _ => "decimal"
  | .uuid => "uuid"
  | .date => "date"
  | .time => "time"
  | .dateTime => "datetime"
  | .timestamp => "timestamp"
  | .ordinal _ => "enum ordinal"
  | .named _ => "enum name"

/-- The storage class of encoded values. -/
def storageClass : Kind t → StorageClass
  | .int8 | .int16 | .int32 | .int64 | .bool | .decimal _ | .ordinal _ => .integer
  | .float32 | .float64 => .real
  | .text | .date | .time | .dateTime | .timestamp | .named _ => .text
  | .blob | .uuid => .blob

/-- The column type in table definitions. -/
def declaredType : Kind t → String
  | .bool => "BOOLEAN"
  | .date => "DATE"
  | .time => "TIME"
  | .dateTime => "DATETIME"
  | .timestamp => "TIMESTAMP"
  | k => k.storageClass.sql

/-- The places of a decimal kind. -/
def scale? : Kind t → Option Scale
  | .decimal scale => some scale
  | _ => none

/-- The kind with its settings at their defaults: a decimal keeps two places. -/
def standard : Kind t → Kind t
  | .decimal _ => .decimal .standard
  | k => k

end Kind

/-- A kind of some value type. -/
structure AnyKind where
  type : ValueType
  kind : Kind type
deriving DecidableEq, Repr

namespace AnyKind

/-- The kinds that need no enumeration; decimals keep two places. -/
def common : List AnyKind :=
  [⟨_, .int8⟩, ⟨_, .int16⟩, ⟨_, .int32⟩, ⟨_, .int64⟩, ⟨_, .float32⟩, ⟨_, .float64⟩, ⟨_, .bool⟩,
    ⟨_, .text⟩, ⟨_, .blob⟩, ⟨_, .decimal .standard⟩, ⟨_, .uuid⟩, ⟨_, .date⟩, ⟨_, .time⟩,
    ⟨_, .dateTime⟩, ⟨_, .timestamp⟩]

/-- The common kind of that name. -/
def named? (name : String) : Option AnyKind := common.find? (·.kind.name == name)

end AnyKind
end TypedSql
