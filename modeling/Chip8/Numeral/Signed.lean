import Chip8.Numeral.Power

/-!
# Signed numbers of a width

A signed number of some bits has its sign in the highest of them, so half of the numbers are
negative.
-/

namespace Chip8.Signed

/-- Whether a number is a signed number of `bits + 1` bits. -/
def holds (bits : Nat) (n : Int) : Bool :=
  -(twoPow bits : Int) ≤ n && n < (twoPow bits : Int)

theorem holds_iff (bits : Nat) (n : Int) :
  holds bits n = true ↔ -(twoPow bits : Int) ≤ n ∧ n < (twoPow bits : Int)
  := by
  simp [holds]

end Chip8.Signed
