import TypedSql.Number.Decimal.Basic
import TypedSql.Number.Numeral

/-!
# Reading decimals

A decimal numeral is a sign, digits with at most one point, and an exponent, all but one digit
optional. Underscores may follow the first digit. The reader keeps what 96 bits and 28 places can
hold: the first digit behind the point that no longer fits decides the rounding, a half going up,
and what follows it may only be digits and underscores. A whole part that does not fit is refused.
-/

namespace TypedSql.Decimal

open Text Numeral

/-- What has been read of a numeral. -/
structure Reading where
  mantissa : Nat
  scale : Nat
  /-- The point has been passed. -/
  behindPoint : Bool
  /-- A digit has been read. -/
  started : Bool

namespace Reading

def empty : Reading := ⟨0, 0, false, false⟩

/-- What may follow the digit that decides the rounding. -/
def isTail (cs : List Char) : Bool := cs.all fun c => isAsciiDigit c || c == '_'

/-- Rounds by the digit that does not fit; a mantissa that outgrows 96 bits gives up a place. -/
def round? (r : Reading) (digit : Nat) (rest : List Char) : Option (Nat × Nat) :=
  if !isTail rest then none
  else if digit < 5 then some (r.mantissa, r.scale)
  else if r.mantissa + 1 < twoTo 96 then some (r.mantissa + 1, r.scale)
  else if r.scale = 0 then none
  else some ((r.mantissa + 5) / 10, r.scale - 1)

/-- The mantissa was gathered in 64 bits: its digits before the last stay well below a tenth of
what they hold. -/
def isShort (r : Reading) : Bool := r.mantissa / 10 < (twoTo 64 - 1) / 10 - 255

/-- Reads on when all places are taken. An underscore behind a short mantissa stands for a zero,
behind a longer one it is skipped. -/
def finishFull? (r : Reading) (c : Char) (rest : List Char) : Option (Nat × Nat) :=
  if isAsciiDigit c then r.round? (digitValue c) rest
  else if c ≠ '_' then none
  else if r.isShort then r.round? 0 rest
  else
    match rest.dropWhile (· == '_') with
    | [] => some (r.mantissa, r.scale)
    | d :: rest => if isAsciiDigit d then r.round? (digitValue d) rest else none

/-- Reads on to the end of the text. -/
def finish? (r : Reading) : List Char → Option (Nat × Nat)
  | [] => if r.started then some (r.mantissa, r.scale) else none
  | c :: rest =>
    if r.behindPoint ∧ 28 ≤ r.scale then r.finishFull? c rest
    else if isAsciiDigit c then
      let grown := 10 * r.mantissa + digitValue c
      if grown < twoTo 96 then
        finish? { r with
          mantissa := grown
          scale := if r.behindPoint then r.scale + 1 else r.scale
          started := true } rest
      else if r.behindPoint then r.round? (digitValue c) rest
      else none
    else if c = '.' ∧ !r.behindPoint then finish? { r with behindPoint := true } rest
    else if c = '_' ∧ r.started then finish? r rest
    else none

end Reading

/-- Reads a numeral without an exponent. -/
def readPlain? (cs : List Char) : Option Decimal :=
  let (negative, body) := splitSign cs
  (Reading.empty.finish? body).bind fun (mantissa, scale) =>
    ofSigned? negative mantissa scale

/-- Moves the point to the left, beyond 28 places at the cost of the last digits. -/
def shiftLeft? (d : Decimal) (n : Nat) : Option Decimal :=
  if 28 < n then none
  else if d.scale + n ≤ 28 then ofParts? d.mantissa (d.scale + n)
  else ofParts? (d.rescale (28 - n)).mantissa 28

/-- Moves the point to the right, filling up with zeros. -/
def shiftRight? (d : Decimal) (n : Nat) : Option Decimal :=
  if n ≤ d.scale then ofParts? d.mantissa (d.scale - n)
  else if 28 < n then none
  else ofParts? (d.mantissa * tenTo (n - d.scale)) 0

/-- An exponent of at most 32 bits, its minus apart. -/
def readShift? (cs : List Char) : Option (Bool × Nat) :=
  let (negative, digits) :=
    match cs with
    | '-' :: '+' :: rest => (true, rest)
    | cs => splitSign cs
  if digits.isEmpty || !digits.all isAsciiDigit then none
  else
    let n := ofDigits 0 digits
    if n < twoTo 32 then some (negative, n) else none

def isExponentMark (c : Char) : Bool := c == 'e' || c == 'E'

/-- Reads a decimal numeral. -/
def read? (s : String) : Option Decimal :=
  let base := s.toList.takeWhile (!isExponentMark ·)
  match s.toList.dropWhile (!isExponentMark ·) with
  | [] => readPlain? base
  | _ :: exponent => do
    let d ← readPlain? base
    let (negative, n) ← readShift? exponent
    if negative then d.shiftLeft? n else d.shiftRight? n

end TypedSql.Decimal
