/-!
# Blank characters and trimming

The characters with the property `White_Space`. Text read as a number, a date or an identifier
loses the blanks at both ends first.
-/

namespace TypedSql.Text

/-- The twenty-five characters of the property `White_Space`. -/
def isBlank (c : Char) : Bool :=
  let n := c.toNat
  (9 ≤ n && n ≤ 13) || n == 0x20 || n == 0x85 || n == 0xA0 || n == 0x1680
    || (0x2000 ≤ n && n ≤ 0x200A) || n == 0x2028 || n == 0x2029 || n == 0x202F || n == 0x205F
    || n == 0x3000

/-- Drops the blanks in front. -/
def dropBlanks (cs : List Char) : List Char := cs.dropWhile isBlank

/-- Drops the blanks at both ends. -/
def trimList (cs : List Char) : List Char := (dropBlanks (dropBlanks cs).reverse).reverse

/-- `trimList` on text. -/
def trim (s : String) : String := String.ofList (trimList s.toList)

end TypedSql.Text
