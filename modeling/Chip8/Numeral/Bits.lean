/-!
# Two's complement bits of integers

An integer is read as an endless row of bits, least significant first; the row of a negative
number ends in ones. Masks and patterns of instructions are compared in this reading, so they
may be negative or arbitrarily wide.
-/

namespace Chip8.Bits

/-- The bit of an integer at position `k`. -/
def test : Int → Nat → Bool
  | .ofNat n, k => n.testBit k
  | .negSucc n, k => !n.testBit k

/-- The integer with the bits that both arguments have. -/
def and : Int → Int → Int
  | .ofNat m, .ofNat n => .ofNat (m &&& n)
  | .ofNat m, .negSucc n => .ofNat (m ^^^ (m &&& n))
  | .negSucc m, .ofNat n => .ofNat (n ^^^ (m &&& n))
  | .negSucc m, .negSucc n => .negSucc (m ||| n)

/-- The integer with the bits that exactly one of the arguments has. -/
def xor : Int → Int → Int
  | .ofNat m, .ofNat n => .ofNat (m ^^^ n)
  | .ofNat m, .negSucc n => .negSucc (m ^^^ n)
  | .negSucc m, .ofNat n => .negSucc (m ^^^ n)
  | .negSucc m, .negSucc n => .ofNat (m ^^^ n)

/-- The integer with exactly the bits that the argument has not. -/
def not : Int → Int
  | .ofNat n => .negSucc n
  | .negSucc n => .ofNat n

/-! ### Operations read bit by bit -/

@[simp]
theorem test_and (a b : Int) (k : Nat) :
  test (and a b) k = (test a k && test b k)
  := by
  cases a <;> cases b <;>
    simp only [and, test, Nat.testBit_and, Nat.testBit_xor, Nat.testBit_or] <;>
    (generalize Nat.testBit _ k = p; generalize Nat.testBit _ k = q; revert p q; decide)

@[simp]
theorem test_xor (a b : Int) (k : Nat) :
  test (xor a b) k = (test a k ^^ test b k)
  := by
  cases a <;> cases b <;> simp only [xor, test, Nat.testBit_xor] <;>
    (generalize Nat.testBit _ k = p; generalize Nat.testBit _ k = q; revert p q; decide)

@[simp]
theorem test_not (a : Int) (k : Nat) :
  test (not a) k = !test a k
  := by
  cases a with
  | ofNat n => rfl
  | negSucc n => simp [not, test]

/-- Far enough to the left, the bits of an integer tell whether it is negative. -/
theorem test_eventually (a : Int) :
  ∃ N, ∀ k ≥ N, test a k = decide (a < 0)
  := by
  cases a with
  | ofNat n =>
      refine ⟨n, fun k hk => ?_⟩
      have hn : n < 2 ^ k := Nat.lt_of_le_of_lt hk Nat.lt_two_pow_self
      have h0 : ¬(Int.ofNat n < 0) := Int.not_lt.mpr (Int.natCast_nonneg n)
      simp only [test, Nat.testBit_lt_two_pow hn, h0, decide_false]
  | negSucc n =>
      refine ⟨n, fun k hk => ?_⟩
      have hn : n < 2 ^ k := Nat.lt_of_le_of_lt hk Nat.lt_two_pow_self
      have h0 : Int.negSucc n < 0 := Int.negSucc_lt_zero n
      simp only [test, Nat.testBit_lt_two_pow hn, h0, decide_true, Bool.not_false]

/-- An integer is determined by its bits. -/
theorem eq_of_test_eq {a b : Int} (h : ∀ k, test a k = test b k) :
  a = b
  := by
  obtain ⟨M, hM⟩ := test_eventually a
  obtain ⟨N, hN⟩ := test_eventually b
  have hs : decide (a < 0) = decide (b < 0) := by
    rw [← hM (max M N) (Nat.le_max_left M N), ← hN (max M N) (Nat.le_max_right M N)]
    apply h
  cases a with
  | ofNat m =>
      cases b with
      | ofNat n =>
          have key : m = n := Nat.eq_of_testBit_eq h
          rw [key]
      | negSucc n =>
          have h0 : ¬(Int.ofNat m < 0) := Int.not_lt.mpr (Int.natCast_nonneg m)
          simp only [h0, Int.negSucc_lt_zero n, decide_false, decide_true, Bool.false_eq_true] at hs
  | negSucc m =>
      cases b with
      | ofNat n =>
          have h0 : ¬(Int.ofNat n < 0) := Int.not_lt.mpr (Int.natCast_nonneg n)
          simp only [h0, Int.negSucc_lt_zero m, decide_false, decide_true, Bool.true_eq_false] at hs
      | negSucc n =>
          have key : m = n := by
            apply Nat.eq_of_testBit_eq
            intro k
            have hk := h k
            simp only [test] at hk
            revert hk
            generalize m.testBit k = p
            generalize n.testBit k = q
            revert p q
            decide
          rw [key]

example : and (-1) 255 = 255 ∧ xor (-1) 255 = -256 ∧ not 0 = -1 := by decide

end Chip8.Bits
