/-!
# Decimal digits and blanks

A numeral may be written with the decimal digits of any script, and may have blanks around it.
Every script lists its ten decimal digits consecutively, zero first, so the digits are given by
the code points of their zeros.
-/

namespace Chip8.Digit

/-- The code points of the zeros of all scripts with decimal digits. -/
def zeros : List Nat :=
  [0x30, 0x660, 0x6f0, 0x7c0, 0x966, 0x9e6, 0xa66, 0xae6, 0xb66, 0xbe6, 0xc66, 0xce6, 0xd66,
   0xde6, 0xe50, 0xed0, 0xf20, 0x1040, 0x1090, 0x17e0, 0x1810, 0x1946, 0x19d0, 0x1a80, 0x1a90,
   0x1b50, 0x1bb0, 0x1c40, 0x1c50, 0xa620, 0xa8d0, 0xa900, 0xa9d0, 0xa9f0, 0xaa50, 0xabf0,
   0xff10, 0x104a0, 0x10d30, 0x11066, 0x110f0, 0x11136, 0x111d0, 0x112f0, 0x11450, 0x114d0,
   0x11650, 0x116c0, 0x11730, 0x118e0, 0x11950, 0x11c50, 0x11d50, 0x11da0, 0x16a60, 0x16ac0,
   0x16b50, 0x1d7ce, 0x1d7d8, 0x1d7e2, 0x1d7ec, 0x1d7f6, 0x1e140, 0x1e2f0, 0x1e950, 0x1fbf0]

/-- The value of a decimal digit of any script. -/
def value? (c : Char) : Option Nat :=
  (zeros.find? fun z => z ≤ c.toNat && c.toNat < z + 10).map (c.toNat - ·)

/-- The blanks that may surround a numeral: the space, the controls from tab to carriage return,
and the spaces and line separators outside the first hundred and twenty-eight characters. -/
def isBlank (c : Char) : Bool :=
  let n := c.toNat
  (9 ≤ n && n ≤ 13) || n == 0x20 || n == 0x85 || n == 0xa0 || n == 0x1680 ||
    (0x2000 ≤ n && n ≤ 0x200a) || n == 0x2028 || n == 0x2029 || n == 0x202f || n == 0x205f ||
    n == 0x3000

/-! ### Range of the values -/

/-- A decimal digit stands for a number below ten. -/
theorem value?_lt {c : Char} {d : Nat} (h : value? c = some d) :
  d < 10
  := by
  obtain ⟨z, hz, rfl⟩ := Option.map_eq_some_iff.mp h
  have key := List.find?_some hz
  simp only [Bool.and_eq_true, decide_eq_true_eq] at key
  omega

example : zeros.length = 66 := by decide

example : value? '7' = some 7 ∧ value? '٣' = some 3 ∧ value? '²' = none := by decide

end Chip8.Digit
