import Chip8.Numeral.Signed

/-!
# Excess of storage

Locations are addressed by signed numbers of sixty-four bits, so neither a row of bytes nor the
digits of a number can be longer than that allows. How many bytes are free for a row is up to the
system. A request for more is refused before anything is stored, so it changes nothing. The storage
of a number that has addresses is taken for granted.
-/

namespace Chip8

/-- What a request for storage exceeds. -/
inductive Excess where
  /-- There are not so many addresses. -/
  | addresses
  /-- There are the addresses, but not so many bytes are free. -/
  | storage
deriving DecidableEq

/-- Which numbers of bytes are free for a row. -/
abbrev Storage := Nat → Bool

namespace Excess

/-- The most bits of a number whose digits, of thirty bits in four bytes each, have addresses. -/
def bitLimit : Nat := 30 * 2305843009213693945

/-- What a number of bytes exceeds, if anything. A negative number has to be an address too. -/
def ofBytes? (free : Storage) (count : Int) : Option Excess :=
  if !Signed.holds 63 count then some addresses
  else if free count.toNat then none
  else some storage

/-- The text in which an excess is reported. -/
def message : Excess → String
  | addresses => "there are not so many addresses"
  | storage => "there is not so much storage"

/-! ### What is not in excess -/

/-- A row can be stored if it has addresses and its bytes are free. -/
theorem ofBytes?_eq_none_iff (free : Storage) (count : Int) :
  ofBytes? free count = none ↔
    (-(twoPow 63 : Int) ≤ count ∧ count < (twoPow 63 : Int)) ∧ free count.toNat = true
  := by
  rw [← Signed.holds_iff, ofBytes?]
  cases Signed.holds 63 count <;> cases free count.toNat <;> simp

end Excess

end Chip8
