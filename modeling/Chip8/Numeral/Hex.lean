/-!
# Hexadecimal text

Addresses, words and register contents are reported in lower-case hexadecimal. The text of a
negative number is a minus sign before the text of its magnitude, and a sign counts towards
the least width of a padded text.
-/

namespace Chip8.Hex

/-- The lower-case hexadecimal digits of a number, most significant first, without leading
zeros; zero has the one digit `0`. -/
def digits (n : Nat) : List Char := Nat.toDigits 16 n

/-- The hexadecimal text of an integer. -/
def text (v : Int) : String :=
  String.ofList (if v < 0 then '-' :: digits v.natAbs else digits v.natAbs)

/-- The hexadecimal text of an integer, with zeros put between the sign and the digits until
the text has at least `width` characters. -/
def padded (width : Nat) (v : Int) : String :=
  let sign := if v < 0 then ['-'] else []
  let ds := digits v.natAbs
  String.ofList (sign ++ List.replicate (width - sign.length - ds.length) '0' ++ ds)

/-! ### Laws of the text -/

/-- A number below the base is its one digit. -/
theorem digits_of_lt {n : Nat} (h : n < 16) :
  digits n = [n.digitChar]
  := Nat.toDigits_of_lt_base h

/-- The last digit of a larger number is its remainder. -/
theorem digits_of_le {n : Nat} (h : 16 ≤ n) :
  digits n = digits (n / 16) ++ [(n % 16).digitChar]
  := Nat.toDigits_of_base_le (by decide) h

/-- Every number has a digit. -/
theorem digits_ne_nil (n : Nat) :
  digits n ≠ []
  := Nat.toDigits_ne_nil

example : text (-1) = "-1" ∧ text 65536 = "10000" := by decide

example : padded 4 (-1) = "-001" ∧ padded 3 4096 = "1000" ∧ padded 2 0 = "00" := by decide

end Chip8.Hex
