import Chip8.Numeral.Floating

/-!
# The fewest digits

A number of the 64-bit binary format is written in the fewest decimal digits that denote it. Of
two numerals with so few digits the nearer one is taken. The search goes through the numbers of
digits in turn and looks at the two numerals next to the number.

The digits are laid out with a point among them, or with the point behind the first digit and an
exponent of at least two digits if the number is very small or very large.
-/

namespace Chip8

/-- The decimal `digits * 10 ^ exponent`. -/
structure Decimal where
  digits : Nat
  exponent : Int
deriving DecidableEq

namespace Decimal

/-! ### Digits -/

/-- The decimal as a fraction. -/
def fraction (d : Decimal) : Nat × Nat :=
  (d.digits * Nat.pow 10 d.exponent.toNat, Nat.pow 10 (-d.exponent).toNat)

/-- Whether a decimal denotes a number. -/
def denotes (x : Binary64) (d : Decimal) : Bool :=
  Binary64.ofQuotient? d.fraction.1 d.fraction.2 == some x

/-- The greatest power of ten that is not above the positive fraction `num / den`. -/
def magnitude (num den : Nat) : Int :=
  if den ≤ num then ((Nat.toDigits 10 (num / den)).length : Int) - 1
  else -(Nat.toDigits 10 ((den - 1) / num)).length

/-- The two decimals next to a number that have `count` digits, the nearer one first. -/
def neighbours (x : Binary64) (count : Nat) : List Decimal :=
  let (num, den) := x.fraction
  let exponent := magnitude num den + 1 - count
  let num := num * Nat.pow 10 (-exponent).toNat
  let den := den * Nat.pow 10 exponent.toNat
  let nearer := Binary64.roundDiv num den
  let below := num / den
  [⟨nearer, exponent⟩, ⟨2 * below + 1 - nearer, exponent⟩]

/-- The decimal without zeros at its end, as far as `fuel` goes. -/
def strip (fuel : Nat) (d : Decimal) : Decimal :=
  match fuel with
  | 0 => d
  | fuel + 1 =>
      if d.digits % 10 = 0 then strip fuel ⟨d.digits / 10, d.exponent + 1⟩ else d

/-- The most digits that a number needs. -/
def maxDigits : Nat := 17

/-- The decimal of a positive number. -/
def ofBinary64 (x : Binary64) : Decimal :=
  let candidates := (List.range maxDigits).flatMap fun count => neighbours x (count + 1)
  strip maxDigits ((candidates.find? (denotes x)).getD ⟨x.fraction.1, 0⟩)

/-! ### Layout -/

/-- The greatest power of ten below which the digits are laid out with an exponent. -/
def leastPlain : Int := -4

/-- The least power of ten from which on the digits are laid out with an exponent. -/
def leastLarge : Int := 16

/-- A row of zeros. -/
def zeros (count : Int) : List Char := List.replicate count.toNat '0'

/-- The digits with a point among them or before zeros; `power` is that of the first digit. -/
def plain (ds : List Char) (power : Int) : List Char :=
  if power < 0 then ['0', '.'] ++ zeros (-power - 1) ++ ds
  else
    let whole := (ds ++ zeros (power + 1 - ds.length)).take (power + 1).toNat
    let rest := ds.drop (power + 1).toNat
    whole ++ ['.'] ++ if rest = [] then ['0'] else rest

/-- The digits with an exponent. -/
def scientific (ds : List Char) (power : Int) : List Char :=
  let rest := ds.drop 1
  let exponent := Nat.toDigits 10 power.natAbs
  ds.take 1 ++ (if rest = [] then [] else '.' :: rest) ++
    ['e', if power < 0 then '-' else '+'] ++ zeros (2 - exponent.length) ++ exponent

/-- The text of a decimal. -/
def text (d : Decimal) : List Char :=
  let ds := Nat.toDigits 10 d.digits
  let power := d.exponent + ds.length - 1
  if leastPlain ≤ power ∧ power < leastLarge then plain ds power else scientific ds power

end Decimal

/-- The text of a number. -/
def Floating.text (x : Floating) : String :=
  let sign := fun (negative : Bool) => if negative then ['-'] else []
  String.ofList <|
    match x with
    | .finite negative y =>
        sign negative ++
          if y.mantissa = 0 then Decimal.text ⟨0, 0⟩ else Decimal.text (.ofBinary64 y)
    | .infinite negative => sign negative ++ ['i', 'n', 'f']
    | .undefined => ['n', 'a', 'n']

end Chip8
