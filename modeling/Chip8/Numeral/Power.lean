/-!
# Powers of two

The sizes of ranges of bits.
-/

namespace Chip8

/-- The power of two with a given exponent. -/
def twoPow (k : Nat) : Nat := Nat.pow 2 k

@[simp]
theorem twoPow_zero :
  twoPow 0 = 1
  := rfl

theorem twoPow_pos (k : Nat) :
  0 < twoPow k
  := Nat.two_pow_pos k

/-- Shifting right is dividing by a power of two. -/
theorem shiftRight_eq_div_twoPow (value : Int) (k : Nat) :
  value >>> k = value / (twoPow k : Int)
  := Int.shiftRight_eq_div_pow value k

end Chip8
