import Chip8.Numeral.Nearest

/-!
# Floating-point numbers

The numbers of the 64-bit binary format with a sign. Beside the finite ones there are two infinite
ones, which stand for all that is too large, and one that is undefined. A decimal numeral denotes
the finite number nearest to it, as long as it is not too large for that.
-/

namespace Chip8

namespace Binary64

/-- A finite number as a fraction. -/
def fraction (x : Binary64) : Nat × Nat :=
  (x.mantissa * twoPow x.exponent.toNat, twoPow (-x.exponent).toNat)

end Binary64

/-- A number of the 64-bit binary format. -/
inductive Floating where
  | finite (negative : Bool) (magnitude : Binary64)
  | infinite (negative : Bool)
  | undefined
deriving DecidableEq

namespace Floating

/-- The number nearest to `num / den`, with a sign. -/
def ofQuotient (negative : Bool) (num den : Nat) : Floating :=
  match Binary64.ofQuotient? num den with
  | some x => finite negative x
  | none => infinite negative

/-- The number that the decimal numeral `mantissa / 10 ^ places` denotes. -/
def ofDecimal (mantissa : Int) (places : Nat) : Floating :=
  ofQuotient (mantissa < 0) mantissa.natAbs (Nat.pow 10 places)

/-- Whether a number is zero, with either sign. -/
def isZero : Floating → Bool
  | finite _ x => x.mantissa == 0
  | _ => false

/-- The greatest integer that is not above a finite number. -/
def floor? : Floating → Option Int
  | finite negative x =>
      let (num, den) := x.fraction
      some ((if negative then -(num : Int) else num) / den)
  | _ => none

/-- Whether a number is above a natural number. -/
def exceeds (bound : Nat) : Floating → Bool
  | finite negative x =>
      let (num, den) := x.fraction
      !negative && bound * den < num
  | infinite negative => !negative
  | undefined => false

/-- The difference between a number and one that is not negative. -/
def minus (x : Floating) (y : Binary64) : Floating :=
  match x with
  | finite negative m =>
      let (num, den) := m.fraction
      let (num', den') := y.fraction
      let difference : Int := (if negative then -(num : Int) else num) * den' - num' * den
      ofQuotient (difference < 0) difference.natAbs (den * den')
  | infinite negative => infinite negative
  | undefined => undefined

/-- The reciprocal of a number above zero; of any other number it is undefined. -/
def reciprocal : Floating → Floating
  | finite false x =>
      if x.mantissa = 0 then undefined
      else
        match x.reciprocal? with
        | some y => finite false y
        | none => infinite false
  | infinite false => ofQuotient false 0 1
  | _ => undefined

/-- The bits of the format, of which the highest is the sign. -/
def bits : Floating → Nat
  | finite negative x => (if negative then twoPow 63 else 0) + x.bits
  | infinite negative => (if negative then twoPow 63 else 0) + 0x7ff0000000000000
  | undefined => 0x7ff8000000000000

example : (ofDecimal 5 1).reciprocal = ofDecimal 2 0 ∧ (ofDecimal (-5) 1).floor? = some (-1) ∧
    (ofDecimal 25 2).minus ⟨1, -1⟩ = ofDecimal (-25) 2 := by
  decide

end Floating

end Chip8
