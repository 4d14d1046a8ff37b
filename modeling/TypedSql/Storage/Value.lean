import TypedSql.Number.RealText
import TypedSql.Text.Quoted

/-!
# Storage values

An engine stores a value as NULL or in one of four storage classes. Every semantic value is
reduced to a storage value before it is bound, and read back from one.
-/

namespace TypedSql

/-- The class of a stored value that is not NULL. -/
inductive StorageClass where
  | integer
  | real
  | text
  | blob
deriving DecidableEq, Repr

/-- The declared type that columns of the class have by default. -/
def StorageClass.sql : StorageClass → String
  | .integer => "INTEGER"
  | .real => "REAL"
  | .text => "TEXT"
  | .blob => "BLOB"

/-- A value as an engine stores it. -/
inductive StorageValue where
  | null
  | integer (n : Int64)
  | real (x : Float)
  | text (s : String)
  | blob (bytes : List UInt8)
deriving Inhabited

namespace StorageValue

def isNull : StorageValue → Bool
  | .null => true
  | _ => false

/-- The storage class, none for NULL. -/
def storageClass? : StorageValue → Option StorageClass
  | .null => none
  | .integer _ => some .integer
  | .real _ => some .real
  | .text _ => some .text
  | .blob _ => some .blob

/-- The class as messages name it. -/
def className (v : StorageValue) : String :=
  match v.storageClass? with
  | some c => c.sql
  | none => "NULL"

theorem isNull_iff_storageClass?_eq_none (v : StorageValue) :
    v.isNull = true ↔ v.storageClass? = none := by
  cases v <;> simp [isNull, storageClass?]

/-- The value in a listing of arguments: its class and its content. -/
def listing : StorageValue → String
  | .null => "Null"
  | .integer n => "Integer(" ++ toString n.toInt ++ ")"
  | .real x => "Real(" ++ RealText.source x ++ ")"
  | .text s => "Text(" ++ Text.quoted s ++ ")"
  | .blob bytes =>
    "Blob([" ++ String.intercalate ", " (bytes.map fun b => toString b.toNat) ++ "])"

/-- A list of arguments in a message. -/
def listings (vs : List StorageValue) : String :=
  "[" ++ String.intercalate ", " (vs.map listing) ++ "]"

end StorageValue
end TypedSql
