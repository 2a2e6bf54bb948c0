import Chip8.Numeral.Floating
import Chip8.Random.Digest

/-!
# Seeds

A generator is seeded with a number. An integer stands for itself. A text stands for the number of
its bytes and their digest. A floating-point number stands for its remainder by a prime that is one
less than a power of two, so one that is a small integer seeds like that integer.
-/

namespace Chip8

/-- A seed as it is given. -/
inductive Seed where
  | integer (n : Int)
  | floating (x : Floating)
  | text (s : String)
deriving DecidableEq

namespace Seed

/-- The exponent of the power of two that the prime is one less than. -/
def primeBits : Nat := 61

/-- The prime by which a finite number leaves a remainder. -/
def prime : Nat := twoPow primeBits - 1

/-- The remainder of a finite number. The power of two above the prime leaves one, so the exponent
counts only as far as it goes beyond a multiple of its own. -/
def remainder (x : Binary64) : Nat :=
  x.mantissa * twoPow (x.exponent % (primeBits : Int)).toNat % prime

/-- What stands for the remainder of an infinite number. -/
def infiniteRemainder : Nat := 314159

/-- The number of a remainder with a sign, in 64 bits; what would be the highest of all numbers
is the second highest. -/
def signed (negative : Bool) (r : Nat) : Nat :=
  if !negative || r = 0 then r else twoPow 64 - max r 2

/-- The number that a floating-point number stands for. -/
def ofFloating : Floating → Nat
  | .finite negative x => signed negative (remainder x)
  | .infinite negative => signed negative infiniteRemainder
  | .undefined => 0

/-- The number that a seed stands for. -/
def number : Seed → Int
  | integer n => n
  | floating x => ofFloating x
  | text s =>
      let bytes := s.toUTF8.toList
      Digest.numberOf (bytes ++ Digest.ofBytes bytes)

example :
    ofFloating (.ofDecimal 20 1) = 2 ∧ ofFloating (.ofDecimal (-1) 0) = 0xfffffffffffffffe := by
  decide

end Seed

end Chip8
