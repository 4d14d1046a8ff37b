/-!
# Bits and digits

How much a number of bits or digits can tell apart, and which integers 64 bits can hold.
-/

namespace TypedSql

/-- Two to the power of `bits`. -/
def twoTo (bits : Nat) : Nat := Nat.pow 2 bits

/-- Ten to the power of `digits`. -/
def tenTo (digits : Nat) : Nat := Nat.pow 10 digits

theorem tenTo_succ (n : Nat) : tenTo (n + 1) = tenTo n * 10 := rfl

theorem tenTo_pos (n : Nat) : 0 < tenTo n := by
  induction n with
  | zero => decide
  | succ n ih =>
    rw [tenTo_succ]
    omega

theorem ten_le_tenTo {n : Nat} (h : 0 < n) : 10 ≤ tenTo n := by
  cases n with
  | zero => omega
  | succ n =>
    have := tenTo_pos n
    rw [tenTo_succ]
    omega

/-- The integer in 64 bits, if it fits. -/
def int64? (n : Int) : Option Int64 :=
  if -9223372036854775808 ≤ n ∧ n ≤ 9223372036854775807 then some (Int64.ofInt n) else none

end TypedSql
