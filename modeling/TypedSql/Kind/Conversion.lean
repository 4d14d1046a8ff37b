import TypedSql.Error.Conversion
import TypedSql.Kind.Basic
import TypedSql.Number.Numeral
import TypedSql.Text.Blank

/-!
# Encoding and decoding

`encode` stores a value, `decode` reads one back and accepts more than `encode` writes: a whole
real or a numeral where an integer is stored, a date-time where a date is. `coerce` brings any
value that can be decoded into the form `encode` would have given it.

None of the three knows about nullability. What is a date, a decimal or an identifier, and how it is
written and read, is left to the libraries.

Main statement: what `encode` gives has the storage class of the kind (`storageClass?_of_encode`).
-/

namespace TypedSql

namespace StorageValue

/-- Reads an integer from an integer, a whole real or a numeral. -/
def toInt64 (target : String) : StorageValue → Except ConversionError Int64
  | .integer n => .ok n
  | .real x =>
    match (Binary64.ofFloat x).toInt?.bind int64? with
    | some n => .ok n
    | none => .error (.outOfRange target (RealText.plain x))
  | .text s =>
    match Numeral.readInt64? (Text.trim s) with
    | some n => .ok n
    | none => .error (.unreadable target s)
  | .null => .error (.unexpectedNull target)
  | .blob _ => .error (.incompatible target "BLOB")

/-- Reads a real from a real, an integer or a numeral. -/
def toFloat (target : String) : StorageValue → Except ConversionError Float
  | .real x => .ok x
  | .integer n => .ok n.toFloat
  | .text s =>
    match Numeral.readFloat? (Text.trim s) with
    | some x => .ok x
    | none => .error (.unreadable target s)
  | .null => .error (.unexpectedNull target)
  | .blob _ => .error (.incompatible target "BLOB")

/-- Reads text; no other class is text. -/
def toText (target : String) : StorageValue → Except ConversionError String
  | .text s => .ok s
  | v => .error (.incompatible target v.className)

end StorageValue

namespace Kind

variable {t : ValueType}

/-- An integer that lies in the range of a narrower type. -/
def narrow {α : Type} (target : String) (low high : Int) (cast : Int64 → α) (n : Int64) :
    Except ConversionError α :=
  if low ≤ n.toInt ∧ n.toInt ≤ high then .ok (cast n)
  else .error (.outOfRange target (toString n.toInt))

/-- The greatest finite value of 32 bits. -/
def maxFloat32 : Float := Float.ofBits 0x47EFFFFFE0000000

/-- A finite real must not exceed the range of 32 bits; its digits may. -/
def toFloat32 (target : String) (x : Float) : Except ConversionError Float32 :=
  if x.isFinite && x.abs > maxFloat32 then .error (.outOfRange target (RealText.plain x))
  else .ok x.toFloat32

section Libraries

variable [lib : Libraries]

/-- A decimal in units of its last place: rounded, brought to the places of the kind, and without
the point. -/
def encodeDecimal (scale : Scale) (d : lib.decimals.Decimal) :
    Except ConversionError StorageValue :=
  let rounded := lib.decimals.roundTo d scale
  match int64? (lib.decimals.mantissa (lib.decimals.rescale rounded scale)) with
  | some n => .ok (.integer n)
  | none => .error (.outOfRange "decimal" (lib.decimals.toText d))

/-- A decimal from units of its last place, from a real or from a numeral. -/
def decodeDecimal (scale : Scale) : StorageValue → Except ConversionError lib.decimals.Decimal
  | .integer n =>
    match lib.decimals.ofParts? n.toInt scale with
    | some d => .ok d
    | none => .error (.outOfRange "decimal" (toString n.toInt))
  | .real x =>
    match lib.decimals.ofFloat? x with
    | some d => .ok (lib.decimals.roundTo d scale)
    | none => .error (.outOfRange "decimal" (RealText.plain x))
  | .text s =>
    match lib.decimals.read? (Text.trim s) with
    | some d => .ok (lib.decimals.roundTo d scale)
    | none => .error (.unreadable "decimal" s)
  | .null => .error (.unexpectedNull "decimal")
  | .blob _ => .error (.incompatible "decimal" "BLOB")

/-- Sixteen bytes, or an identifier as text. -/
def decodeUuid : StorageValue → Except ConversionError lib.uuids.Uuid
  | .blob bytes =>
    match lib.uuids.ofBytes? bytes with
    | some u => .ok u
    | none => .error (.outOfRange "uuid" (toString bytes.length ++ " bytes"))
  | v => do
    let s ← v.toText "uuid"
    match lib.uuids.read? (Text.trim s) with
    | some u => .ok u
    | none => .error (.unreadable "uuid" s)

/-- A value read by `read?` from trimmed text; the error shows the text trimmed. -/
def decodeCalendar {α : Type} (target : String) (read? : String → Option α)
    (v : StorageValue) : Except ConversionError α := do
  let s ← v.toText target
  match read? (Text.trim s) with
  | some a => .ok a
  | none => .error (.unreadable target (Text.trim s))

/-- A local date-time with a blank, or else a `T`, in the middle. -/
def readLocal? (s : String) : Option lib.calendar.DateTime :=
  lib.calendar.readDateTime? s <|> lib.calendar.readDateTimeT? s

/-- A date, or the date of a date-time. -/
def readDate? (s : String) : Option lib.calendar.Date :=
  lib.calendar.readDate? s <|> (readLocal? s).map lib.calendar.date

/-- A time, with or without seconds. -/
def readTime? (s : String) : Option lib.calendar.Time :=
  lib.calendar.readTime? s <|> lib.calendar.readShortTime? s

/-- A date-time, or the midnight of a date. -/
def readDateTime? (s : String) : Option lib.calendar.DateTime :=
  readLocal? s <|> (lib.calendar.readDate? s).bind (lib.calendar.atTime? · 0 0 0)

/-- An instant with its offset, or else a local date-time taken as UTC. -/
def readInstant? (s : String) : Option lib.calendar.Instant :=
  (lib.calendar.readRfc3339? s).map lib.calendar.toUtc <|> (readLocal? s).map lib.calendar.utc

/-- An instant as text, or in milliseconds from 1970. -/
def decodeTimestamp : StorageValue → Except ConversionError lib.calendar.Instant
  | .integer ms =>
    match lib.calendar.ofMillis? ms with
    | some i => .ok i
    | none => .error (.outOfRange "timestamp" (toString ms.toInt))
  | v => decodeCalendar "timestamp" readInstant? v

end Libraries

/-- The words for the two truth values, in any case, or an integer. -/
def decodeBool (v : StorageValue) : Except ConversionError Bool :=
  let other := (v.toInt64 "bool").map (· != 0)
  match v with
  | .text s =>
    if Text.sameName s "true" then .ok true
    else if Text.sameName s "false" then .ok false
    else other
  | _ => other

/-- Text, or a number as it is written. -/
def decodeText : StorageValue → Except ConversionError String
  | .text s => .ok s
  | .integer n => .ok (toString n.toInt)
  | .real x => .ok (RealText.plain x)
  | v => .error (.incompatible "text" v.className)

/-- Bytes, or the bytes of text. -/
def decodeBlob : StorageValue → Except ConversionError (List UInt8)
  | .blob bytes => .ok bytes
  | .text s => .ok s.toUTF8.toList
  | v => .error (.incompatible "blob" v.className)

/-- A member by its name, or by its position. -/
def decodeOrdinal (e : Enumeration) (v : StorageValue) : Except ConversionError e.Variant :=
  let byPosition := do
    let n ← v.toInt64 "enum ordinal"
    match e.at? n.toInt with
    | some m => .ok m
    | none => .error (.outOfRange "enum ordinal" (toString n.toInt))
  match v with
  | .text s =>
    match e.named? s with
    | some m => .ok m
    | none => byPosition
  | _ => byPosition

/-- A member by its name. -/
def decodeNamed (e : Enumeration) (v : StorageValue) : Except ConversionError e.Variant := do
  let s ← v.toText "enum name"
  match e.named? s with
  | some m => .ok m
  | none => .error (.unreadable "enum name" s)

variable [lib : Libraries]

/-- The stored form of a value. -/
def encode : Kind t → t.Value → Except ConversionError StorageValue
  | .int8, n => .ok (.integer n.toInt64)
  | .int16, n => .ok (.integer n.toInt64)
  | .int32, n => .ok (.integer n.toInt64)
  | .int64, n => .ok (.integer n)
  | .float32, x => .ok (.real x.toFloat)
  | .float64, x => .ok (.real x)
  | .bool, b => .ok (.integer (if b then 1 else 0))
  | .text, s => .ok (.text s)
  | .blob, bytes => .ok (.blob bytes)
  | .decimal scale, d => encodeDecimal scale d
  | .uuid, u => .ok (.blob (lib.uuids.bytes u))
  | .date, d => .ok (.text (lib.calendar.dateText d))
  | .time, v => .ok (.text (lib.calendar.timeText v))
  | .dateTime, v => .ok (.text (lib.calendar.dateTimeText v))
  | .timestamp, v => .ok (.text (lib.calendar.rfc3339Text v))
  | .ordinal e, v => .ok (.integer (Int64.ofNat (e.ordinal v)))
  | .named _, v => .ok (.text v.name)

/-- The value of a stored form other than NULL. -/
def decode : Kind t → StorageValue → Except ConversionError t.Value
  | .int8, v => v.toInt64 "i8" >>= narrow "i8" (-128) 127 Int64.toInt8
  | .int16, v => v.toInt64 "i16" >>= narrow "i16" (-32768) 32767 Int64.toInt16
  | .int32, v => v.toInt64 "i32" >>= narrow "i32" (-2147483648) 2147483647 Int64.toInt32
  | .int64, v => v.toInt64 "i64"
  | .float32, v => v.toFloat "f32" >>= toFloat32 "f32"
  | .float64, v => v.toFloat "f64"
  | .bool, v => decodeBool v
  | .text, v => decodeText v
  | .blob, v => decodeBlob v
  | .decimal scale, v => decodeDecimal scale v
  | .uuid, v => decodeUuid v
  | .date, v => decodeCalendar "date" readDate? v
  | .time, v => decodeCalendar "time" readTime? v
  | .dateTime, v => decodeCalendar "datetime" readDateTime? v
  | .timestamp, v => decodeTimestamp v
  | .ordinal e, v => decodeOrdinal e v
  | .named e, v => decodeNamed e v

/-- The stored form of whatever the kind can read. An integer handed to a decimal is a whole
number, not a count of units. -/
def coerce (k : Kind t) (v : StorageValue) : Except ConversionError StorageValue :=
  match k, v with
  | .decimal scale, .integer n => encodeDecimal scale (lib.decimals.ofInt64 n)
  | k, v => k.decode v >>= k.encode

theorem storageClass?_of_encodeDecimal {scale : Scale} {d : lib.decimals.Decimal} {s : StorageValue}
    (h : encodeDecimal scale d = .ok s) : s.storageClass? = some .integer := by
  simp only [encodeDecimal] at h
  split at h
  · cases h
    rfl
  · cases h

/-- **Encoded values have the storage class of their kind.** -/
theorem storageClass?_of_encode {k : Kind t} {v : t.Value} {s : StorageValue}
    (h : k.encode v = .ok s) : s.storageClass? = some k.storageClass := by
  cases k with
  | decimal scale => exact storageClass?_of_encodeDecimal h
  | _ => cases h; rfl

end Kind
end TypedSql
