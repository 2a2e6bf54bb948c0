/-!
# The length of numerals

A numeral in base ten has at most `maxDigits` digits. A longer one is not read, and a number that
would need a longer one is not written. Base sixteen has no such bound.
-/

namespace Chip8.Numeral

/-- The most digits of a numeral in base ten. -/
def maxDigits : Nat := 4300

/-- Whether a number can be written in base ten. -/
def isWritable (n : Int) : Bool := n.natAbs < Nat.pow 10 maxDigits

/-- The powers of ten grow. -/
theorem tenPow_le {j k : Nat} (h : j ≤ k) :
  Nat.pow 10 j ≤ Nat.pow 10 k
  := Nat.pow_le_pow_right (by decide) h

/-- The numbers that can be written are those below a power of ten. -/
theorem isWritable_natCast_iff (n : Nat) :
  isWritable n = true ↔ n < Nat.pow 10 maxDigits
  := by
  rw [isWritable, decide_eq_true_eq, Int.natAbs_natCast]

/-- A number with at most `maxDigits` digits can be written. -/
theorem isWritable_of_lt {n k : Nat} (few : k ≤ maxDigits) (small : n < Nat.pow 10 k) :
  isWritable n = true
  := by
  rw [isWritable_natCast_iff]
  apply Nat.lt_of_lt_of_le small (tenPow_le few)

end Chip8.Numeral
