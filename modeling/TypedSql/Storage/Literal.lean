import TypedSql.Storage.Value

/-!
# Literals in SQL text

Only column defaults are written into SQL text; every other value travels as a parameter. Text
stands between single quotes with the quotes inside doubled, bytes are hexadecimal digits behind
`X`. NaN has no literal and is written as NULL, the infinities as numerals too great for a float.
-/

namespace TypedSql.StorageValue

/-- Single quotes written twice. -/
def doubleQuotes : List Char → List Char
  | [] => []
  | c :: rest => if c = '\'' then '\'' :: '\'' :: doubleQuotes rest else c :: doubleQuotes rest

def upperHexDigit (n : Nat) : Char :=
  if n < 10 then Char.ofNat (48 + n) else Char.ofNat (55 + n)

/-- Two hexadecimal digits in upper case. -/
def byteDigits (b : UInt8) : List Char :=
  [upperHexDigit (b.toNat / 16), upperHexDigit (b.toNat % 16)]

/-- The literal of a real number. -/
def realLiteral (x : Float) : String :=
  match Binary64.ofFloat x with
  | .nan => "NULL"
  | .infinite negative => if negative then "-9e999" else "9e999"
  | .finite .. => RealText.source x

/-- The value as a literal. -/
def literal : StorageValue → String
  | .null => "NULL"
  | .integer n => toString n.toInt
  | .real x => realLiteral x
  | .text s => "'" ++ String.ofList (doubleQuotes s.toList) ++ "'"
  | .blob bytes => "X'" ++ String.ofList (bytes.flatMap byteDigits) ++ "'"

end TypedSql.StorageValue
