import TypedSql.Storage.Value

/-!
# Plain values

The values a caller may bind by position without naming a kind. Booleans and whole numbers of up
to 64 bits are stored as integers, reals of either width as reals.
-/

namespace TypedSql

/-- A value bound by position. -/
inductive PlainValue where
  | bool (b : Bool)
  | int8 (n : Int8)
  | int16 (n : Int16)
  | int32 (n : Int32)
  | int64 (n : Int64)
  | uint8 (n : UInt8)
  | uint16 (n : UInt16)
  | uint32 (n : UInt32)
  | float32 (x : Float32)
  | float64 (x : Float)
  | text (s : String)
  | bytes (bs : List UInt8)
  | absent
  | stored (v : StorageValue)

/-- How a plain value is stored; an absent one is NULL. -/
def PlainValue.toStorage : PlainValue → StorageValue
  | .bool b => .integer (if b then 1 else 0)
  | .int8 n => .integer n.toInt64
  | .int16 n => .integer n.toInt64
  | .int32 n => .integer n.toInt64
  | .int64 n => .integer n
  | .uint8 n => .integer (Int64.ofNat n.toNat)
  | .uint16 n => .integer (Int64.ofNat n.toNat)
  | .uint32 n => .integer (Int64.ofNat n.toNat)
  | .float32 x => .real x.toFloat
  | .float64 x => .real x
  | .text s => .text s
  | .bytes bs => .blob bs
  | .absent => .null
  | .stored v => v

end TypedSql
