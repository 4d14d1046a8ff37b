import TypedSql.Number.Width
import TypedSql.Text.Ascii

/-!
# Reading numbers from text

The numerals accepted in text columns: whole numbers of 64 bits with an optional sign, and real
numbers with an optional point and exponent or one of the words `inf`, `infinity` and `nan`.
Nothing may surround them.
-/

namespace TypedSql.Numeral

open Text

/-- The number a list of decimal digits denotes, read on top of `acc`. -/
def ofDigits (acc : Nat) (cs : List Char) : Nat :=
  cs.foldl (fun n c => 10 * n + digitValue c) acc

/-- Splits an optional sign off; the flag is set for a minus. -/
def splitSign : List Char → Bool × List Char
  | '-' :: rest => (true, rest)
  | '+' :: rest => (false, rest)
  | cs => (false, cs)

/-- The longest front of decimal digits, and the rest. -/
def spanDigits (cs : List Char) : List Char × List Char :=
  (cs.takeWhile isAsciiDigit, cs.dropWhile isAsciiDigit)

/-- A nonempty list of digits with an optional sign, of any size. -/
def readInt? (cs : List Char) : Option Int :=
  let (negative, digits) := splitSign cs
  if digits.isEmpty || !digits.all isAsciiDigit then none
  else
    let n := ofDigits 0 digits
    some (if negative then -(n : Int) else n)

/-- A whole number of 64 bits. -/
def readInt64? (s : String) : Option Int64 :=
  (readInt? s.toList).bind int64?

/-- The parts of a real numeral. -/
structure Scientific where
  negative : Bool
  /-- The digits with the point left out. -/
  digits : List Char
  /-- How many of them stand behind the point. -/
  places : Nat
  exponent : Int

/-- Reads an exponent part to the end of the text; an absent one is zero. -/
def readExponent? : List Char → Option Int
  | [] => some 0
  | c :: rest => if c = 'e' ∨ c = 'E' then readInt? rest else none

/-- Reads digits, point, digits and exponent; one of the digit lists may be empty. -/
def readScientific? (cs : List Char) : Option Scientific :=
  let (negative, body) := splitSign cs
  let (whole, afterWhole) := spanDigits body
  let (fraction, afterFraction) :=
    match afterWhole with
    | '.' :: rest => spanDigits rest
    | rest => ([], rest)
  if whole.isEmpty && fraction.isEmpty then none
  else
    (readExponent? afterFraction).map fun exponent =>
      { negative, digits := whole ++ fraction, places := fraction.length, exponent }

def signed (negative : Bool) (x : Float) : Float := if negative then -x else x

/-- The nearest float. Beyond the range of floats the digits no longer matter. -/
def Scientific.toFloat (n : Scientific) : Float :=
  let digits := n.digits.dropWhile (· == '0')
  let exponent := n.exponent - n.places
  let lead := exponent + digits.length
  let magnitude :=
    if digits.isEmpty then 0.0
    else if 310 < lead then 1.0 / 0.0
    else if lead < -330 then 0.0
    else Float.ofScientific (ofDigits 0 digits) (decide (exponent < 0)) exponent.natAbs
  signed n.negative magnitude

/-- A real number: one of the three words in any case, or a numeral. -/
def readFloat? (s : String) : Option Float :=
  let (negative, body) := splitSign s.toList
  let word := String.ofList (body.map asciiLower)
  if word = "inf" ∨ word = "infinity" then some (signed negative (1.0 / 0.0))
  else if word = "nan" then some (0.0 / 0.0)
  else (readScientific? s.toList).map Scientific.toFloat

end TypedSql.Numeral
