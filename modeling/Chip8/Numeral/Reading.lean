import Chip8.Numeral.Digit
import Chip8.Numeral.Length

/-!
# Reading integers

An integer is written as an optional sign and a run of digits, with blanks allowed around the
whole. Digits may be grouped by single underscores, each between two digits. In base sixteen
the digits may follow a mark `0x`, after which one further underscore is allowed; in base ten
a numeral has at most `maxDigits` digits, counting leading zeros.
-/

namespace Chip8.Numeral

/-- The value of a letter that serves as a digit in base sixteen. -/
def letterValue? (c : Char) : Option Nat :=
  if 'a' ≤ c && c ≤ 'f' then some (c.toNat - 'a'.toNat + 10)
  else if 'A' ≤ c && c ≤ 'F' then some (c.toNat - 'A'.toNat + 10)
  else none

/-- The value of a character as a digit in base ten or, when `hex` holds, in base sixteen. -/
def digit? (hex : Bool) (c : Char) : Option Nat :=
  match Digit.value? c with
  | some d => some d
  | none => if hex then letterValue? c else none

/-- The digits that continue a run after its first digit. -/
def moreDigits? (hex : Bool) : List Char → Option (List Nat)
  | [] => some []
  | '_' :: c :: rest => do return (← digit? hex c) :: (← moreDigits? hex rest)
  | c :: rest => do return (← digit? hex c) :: (← moreDigits? hex rest)

/-- The values of a run of digits, which must not be empty. -/
def digits? (hex : Bool) : List Char → Option (List Nat)
  | [] => none
  | c :: rest => do return (← digit? hex c) :: (← moreDigits? hex rest)

/-- The number with the given digits, most significant first. -/
def ofDigits (base : Nat) (ds : List Nat) : Nat :=
  ds.foldl (fun n d => n * base + d) 0

/-- A text without the blanks at its ends. -/
def trim (cs : List Char) : List Char :=
  ((cs.dropWhile Digit.isBlank).reverse.dropWhile Digit.isBlank).reverse

/-- Whether a minus sign stands in front, and what follows the sign, if any. -/
def splitSign : List Char → Bool × List Char
  | '-' :: rest => (true, rest)
  | '+' :: rest => (false, rest)
  | cs => (false, cs)

/-- What follows the mark of base sixteen, if the text begins with one. -/
def dropMark : List Char → List Char
  | zero :: x :: rest =>
      if Digit.value? zero = some 0 ∧ (x = 'x' ∨ x = 'X') then
        match rest with
        | '_' :: rest => rest
        | rest => rest
      else zero :: x :: rest
  | cs => cs

/-- A number with the given sign. -/
def withSign (negative : Bool) (n : Nat) : Int :=
  if negative then -n else n

/-- The integer written in base ten. -/
def decimal? (s : String) : Option Int := do
  let (negative, cs) := splitSign (trim s.toList)
  let ds ← digits? false cs
  if ds.length ≤ maxDigits then some (withSign negative (ofDigits 10 ds)) else none

/-- The integer written in base sixteen. -/
def hexadecimal? (s : String) : Option Int := do
  let (negative, cs) := splitSign (trim s.toList)
  let ds ← digits? true (dropMark cs)
  some (withSign negative (ofDigits 16 ds))

end Chip8.Numeral
