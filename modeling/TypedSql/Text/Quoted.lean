import TypedSql.Text.Combining
import TypedSql.Text.Unprintable

/-!
# Text quoted in a message

A message shows a rejected text between double quotes, so that no character of it can be mistaken
for the message itself or stay unseen: quotes and backslashes are escaped, the usual control
characters get a letter, and any other character without a form of its own is written as its
code point in hexadecimal.
-/

namespace TypedSql.Text

def inRanges (ranges : List (List (Nat × Nat))) (n : Nat) : Bool :=
  ranges.any fun row => row.any fun (lo, hi) => lo ≤ n && n ≤ hi

/-- The character needs its code point written out. -/
def isHidden (c : Char) : Bool :=
  inRanges combiningRanges c.toNat || inRanges unprintableRanges c.toNat

/-- The digits of `n` in base sixteen, in lower case and without leading zeros. -/
def hexText (n : Nat) : String := String.ofList (Nat.toDigits 16 n)

/-- How one character is shown. -/
def shownChar (c : Char) : String :=
  if c = '"' then "\\\""
  else if c = '\\' then "\\\\"
  else if c = '\n' then "\\n"
  else if c = '\r' then "\\r"
  else if c = '\t' then "\\t"
  else if c.toNat = 0 then "\\0"
  else if isHidden c then "\\u\x7b" ++ hexText c.toNat ++ "\x7d"
  else c.toString

/-- The text between double quotes. -/
def quoted (s : String) : String := "\"" ++ String.join (s.toList.map shownChar) ++ "\""

end TypedSql.Text
