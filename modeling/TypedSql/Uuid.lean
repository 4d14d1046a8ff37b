import TypedSql.Text.Ascii

/-!
# Universally unique identifiers

Sixteen bytes, read from 32 hexadecimal digits. The digits may be grouped by hyphens; grouped ones
may stand in braces or behind `urn:uuid:`. Letters are read in either case.
-/

namespace TypedSql

/-- An identifier of 16 bytes. -/
structure Uuid where
  bytes : List UInt8
  length_eq : bytes.length = 16
deriving DecidableEq, Repr

namespace Uuid

open Text

/-- The identifier of these bytes, if there are 16. -/
def ofBytes? (bytes : List UInt8) : Option Uuid :=
  if h : bytes.length = 16 then some ⟨bytes, h⟩ else none

/-- Pairs of hexadecimal digits as bytes. -/
def hexBytes? : List Char → Option (List UInt8)
  | [] => some []
  | [_] => none
  | a :: b :: rest => do
    let high ← hexValue? a
    let low ← hexValue? b
    let bytes ← hexBytes? rest
    pure (UInt8.ofNat (16 * high + low) :: bytes)

/-- The digits of five groups of 8, 4, 4, 4 and 12, joined by hyphens. -/
def ungroup? (cs : List Char) : Option (List Char) :=
  if cs.length = 36 ∧ [8, 13, 18, 23].all (fun i => cs[i]? == some '-') then
    some (cs.take 8 ++ (cs.drop 9).take 4 ++ (cs.drop 14).take 4 ++ (cs.drop 19).take 4
      ++ cs.drop 24)
  else none

/-- The digits in any of the accepted shapes. -/
def digits? (cs : List Char) : Option (List Char) :=
  if cs.length = 32 then some cs
  else if cs.length = 36 then ungroup? cs
  else if cs.length = 38 ∧ cs.head? = some '\x7b' ∧ cs.getLast? = some '\x7d' then
    ungroup? ((cs.drop 1).take 36)
  else if cs.length = 45 ∧ (cs.take 9).map asciiLower = "urn:uuid:".toList then
    ungroup? (cs.drop 9)
  else none

/-- Reads an identifier. -/
def read? (s : String) : Option Uuid := do
  let digits ← digits? s.toList
  let bytes ← hexBytes? digits
  ofBytes? bytes

end Uuid
end TypedSql
