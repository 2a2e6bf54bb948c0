import Chip8.Numeral.Power

/-!
# The nearest binary fraction

A positive quotient is rounded to the nearest number `m * 2 ^ e` with `m` below `2 ^ 53` and `e`
between `-1074` and `971`; of two equally near ones the even `m` is taken. These are the positive
numbers of the 64-bit binary format, which also gives them their bits.
-/

namespace Chip8

/-- A non-negative number `mantissa * 2 ^ exponent` of the 64-bit binary format. -/
structure Binary64 where
  mantissa : Nat
  exponent : Int
deriving DecidableEq

namespace Binary64

/-- The least exponent. -/
def minExponent : Int := -1074

/-- The greatest exponent. -/
def maxExponent : Int := 971

/-- The quotient rounded to the nearest integer, and to the even one if two are equally near. -/
def roundDiv (num den : Nat) : Nat :=
  let q := num / den
  let r := num % den
  if 2 * r < den then q else if den < 2 * r then q + 1 else q + q % 2

/-- The quotient `num / den / 2 ^ e` as a fraction. -/
def scaled (num den : Nat) (e : Int) : Nat × Nat :=
  (num * twoPow (-e).toNat, den * twoPow e.toNat)

/-- The exponent at which `num / den` has a mantissa of 53 bits, or the least one if that is
greater or the quotient is zero. -/
def exponentOf (num den : Nat) : Int :=
  if num = 0 then minExponent else
  let guess : Int := (Nat.log2 num : Int) - Nat.log2 den - 52
  let (n, d) := scaled num den guess
  max minExponent (if n < twoPow 52 * d then guess - 1 else guess)

/-- The number nearest to `num / den`, if that is not too large for the format. -/
def ofQuotient? (num den : Nat) : Option Binary64 :=
  let e := exponentOf num den
  let (n, d) := scaled num den e
  let m := roundDiv n d
  let nearest : Binary64 := if m = twoPow 53 then ⟨twoPow 52, e + 1⟩ else ⟨m, e⟩
  if nearest.exponent ≤ maxExponent then some nearest else none

/-- The number nearest to a natural number. -/
def ofNat? (n : Nat) : Option Binary64 := ofQuotient? n 1

/-- The number nearest to the reciprocal. -/
def reciprocal? (x : Binary64) : Option Binary64 :=
  ofQuotient? (twoPow (-x.exponent).toNat) (x.mantissa * twoPow x.exponent.toNat)

/-- The bits of the format: the mantissa below the biased exponent, whose lowest bit the leading
bit of a full mantissa adds to. -/
def bits (x : Binary64) : Nat :=
  (x.exponent - minExponent).toNat * twoPow 52 + x.mantissa

/-! ### Rounding -/

/-- Rounding errs by at most half a unit. -/
theorem roundDiv_near (num : Nat) {den : Nat} (h : 0 < den) :
  2 * num ≤ (2 * roundDiv num den + 1) * den ∧ 2 * roundDiv num den * den ≤ 2 * num + den
  := by
  have split := Nat.div_add_mod num den
  have small := Nat.mod_lt num h
  have key : ∀ q r m : Nat, den * q + r = num → r < den →
      m = (if 2 * r < den then q else if den < 2 * r then q + 1 else q + q % 2) →
        2 * num ≤ (2 * m + 1) * den ∧ 2 * m * den ≤ 2 * num + den := by
    intro q r m hq hr hm
    rw [hm]
    subst hq
    have comm : den * q = q * den := Nat.mul_comm den q
    split
    · constructor <;> grind
    · split
      · constructor <;> grind
      · have half : 2 * r = den := by omega
        rcases Nat.mod_two_eq_zero_or_one q with hp | hp <;> rw [hp] <;> constructor <;> grind
  apply key _ _ _ split small rfl

example : ((ofNat? 60).bind reciprocal?).map bits = some 0x3f91111111111111 := by decide

end Binary64

end Chip8
