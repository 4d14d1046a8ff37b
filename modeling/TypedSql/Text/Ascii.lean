/-!
# Text compared without regard to case

Names and keywords are compared after mapping `A` to `Z` onto `a` to `z`. Every other character,
letters outside ASCII included, is compared as it stands.
-/

namespace TypedSql.Text

/-- Lower case on ASCII letters, the identity elsewhere. -/
def asciiLower (c : Char) : Char :=
  if 'A' ≤ c ∧ c ≤ 'Z' then Char.ofNat (c.toNat + 32) else c

/-- The text all its case variants share. -/
def folded (s : String) : List Char := s.toList.map asciiLower

/-- Equality of names in SQL. -/
def sameName (a b : String) : Bool := folded a == folded b

theorem sameName_iff {a b : String} : sameName a b = true ↔ folded a = folded b := by
  simp [sameName]

theorem sameName_refl (a : String) : sameName a a = true := by simp [sameName]

theorem sameName_comm (a b : String) : sameName a b = sameName b a := by
  simp only [sameName, Bool.beq_comm]

def isAsciiLetter (c : Char) : Bool := ('a' ≤ c && c ≤ 'z') || ('A' ≤ c && c ≤ 'Z')

def isAsciiDigit (c : Char) : Bool := '0' ≤ c && c ≤ '9'

/-- The value of a decimal digit. -/
def digitValue (c : Char) : Nat := c.toNat - 48

/-- The value of a hexadecimal digit of either case. -/
def hexValue? (c : Char) : Option Nat :=
  if isAsciiDigit c then some (digitValue c)
  else if 'a' ≤ c ∧ c ≤ 'f' then some (c.toNat - 87)
  else if 'A' ≤ c ∧ c ≤ 'F' then some (c.toNat - 55)
  else none

end TypedSql.Text
