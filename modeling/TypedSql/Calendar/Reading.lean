import TypedSql.Calendar.Time
import TypedSql.Number.Numeral
import TypedSql.Text.Blank

/-!
# Reading dates and times

Two readers. The lenient one reads dates and times field by field: blanks may stand in front of a
number, fields may have fewer digits, a year with a sign may have more than four. The strict one
reads a date-time with its offset, every field at its full width. Both take the whole text or
nothing.

Every step takes characters from the front and returns the rest.
-/

namespace TypedSql.Calendar

open Text Numeral

/-- A step of reading: what was read and the characters left. -/
abbrev Step (α : Type) := StateT (List Char) Option α

/-- The next character is `c`. -/
def literal (c : Char) : Step Unit
  | d :: rest => if d = c then some ((), rest) else none
  | [] => none

/-- Skips blanks. -/
def blanks : Step Unit := fun cs => some ((), dropBlanks cs)

/-- A number of at least `min` and at most `max` digits, as many as there are. -/
def number (min max : Nat) : Step Nat := fun cs =>
  let digits := (cs.take max).takeWhile isAsciiDigit
  if digits.length < min then none else some (ofDigits 0 digits, cs.drop digits.length)

/-- A number of one or two digits after any blanks. -/
def field : Step Nat := do
  blanks
  number 1 2

/-- A year after any blanks: up to four digits, or a sign and any number of them. -/
def year : Step Int := do
  blanks
  fun cs =>
    match cs with
    | '-' :: rest => (number 1 rest.length rest).map fun (n, rest) => (-(n : Int), rest)
    | '+' :: rest => (number 1 rest.length rest).map fun (n, rest) => ((n : Int), rest)
    | cs => (number 1 4 cs).map fun (n, rest) => ((n : Int), rest)

/-- A fraction in nanoseconds, if a point follows: nine digits count, more are skipped. -/
def fraction : Step Nat
  | '.' :: rest =>
    let digits := rest.takeWhile isAsciiDigit
    if digits.isEmpty then none
    else
      let kept := digits.take 9
      some (ofDigits 0 kept * tenTo (9 - kept.length), rest.drop digits.length)
  | cs => some (0, cs)

/-- A time from its fields as written; second sixty is a leap second. -/
def timeOfFields? (hour minute second nanosecond : Nat) : Option Time :=
  if second = 60 then Time.of? hour minute 59 (1000000000 + nanosecond)
  else Time.of? hour minute second nanosecond

/-- `YYYY-MM-DD`, leniently. -/
def date : Step Date := do
  let y ← year
  literal '-'
  let m ← field
  literal '-'
  let d ← field
  (Date.of? y m d : Option Date)

/-- `HH:MM:SS` and a fraction, leniently. -/
def time : Step Time := do
  let h ← field
  literal ':'
  let m ← field
  literal ':'
  let s ← field
  let n ← fraction
  (timeOfFields? h m s n : Option Time)

/-- `HH:MM`, leniently. -/
def shortTime : Step Time := do
  let h ← field
  literal ':'
  let m ← field
  (timeOfFields? h m 0 0 : Option Time)

/-- Date and time with a step between them. -/
def dateTime (between : Step Unit) : Step DateTime := do
  let d ← date
  between
  let t ← time
  pure ⟨d, t⟩

/-- The step takes all of the text. -/
def whole? {α : Type} (step : Step α) (cs : List Char) : Option α :=
  match step cs with
  | some (a, []) => some a
  | _ => none

/-! ## The strict form -/

/-- The next character satisfies `p`. -/
def oneOf (p : Char → Bool) : Step Char
  | c :: rest => if p c then some (c, rest) else none
  | [] => none

/-- The offset from UTC: `Z`, or a sign, hours and minutes. -/
def offset : Step Offset := do
  let c ← oneOf fun c => c == 'Z' || c == 'z' || c == '+' || c == '-' || c == '\u2212'
  if c = 'Z' ∨ c = 'z' then (Offset.of? 0 : Option Offset)
  else
    let h ← number 2 2
    literal ':'
    let m ← number 2 2
    if h < 24 ∧ m < 60 then
      let seconds : Int := 3600 * h + 60 * m
      (Offset.of? (if c = '+' then seconds else -seconds) : Option Offset)
    else failure

/-- `YYYY-MM-DDTHH:MM:SS` with a fraction and an offset, every field in full. -/
def strictInstant : Step OffsetInstant := do
  let y ← number 4 4
  literal '-'
  let mo ← number 2 2
  literal '-'
  let d ← number 2 2
  let _ ← oneOf fun c => c == 'T' || c == 't' || c == ' '
  let h ← number 2 2
  literal ':'
  let mi ← number 2 2
  literal ':'
  let s ← number 2 2
  let n ← fraction
  let off ← offset
  let date ← (Date.of? y mo d : Option Date)
  let time ← (timeOfFields? h mi s n : Option Time)
  let localTime : DateTime := ⟨date, time⟩
  let instant ← (Instant.ofUnix? (localTime.unixSecond - off.seconds) time.nanosecond :
    Option Instant)
  pure ⟨instant, off⟩

end TypedSql.Calendar
