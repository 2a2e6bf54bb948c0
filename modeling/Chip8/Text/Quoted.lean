import Chip8.Numeral.Hex
import Chip8.Text.Printable

/-!
# Quoted text

Names and arguments are quoted when they are reported. The quotation mark is the single one,
unless the text has single marks and no double ones. The mark and the backslash are escaped by a
backslash, and unprintable characters are written by name or by code point, so a quoted text is
one line.
-/

namespace Chip8.Text

/-- The quotation mark put around a text. -/
def quotationMark (cs : List Char) : Char :=
  if cs.contains '\'' && !cs.contains '"' then '"' else '\''

/-- The code point of an unprintable character, in the shortest of three widths. -/
def escapeCode (c : Char) : List Char :=
  let n := c.toNat
  if n < 0x100 then ['\\', 'x'] ++ (Hex.padded 2 n).toList
  else if n < 0x10000 then ['\\', 'u'] ++ (Hex.padded 4 n).toList
  else ['\\', 'U'] ++ (Hex.padded 8 n).toList

/-- A character as it stands between quotation marks `mark`. -/
def escape (mark c : Char) : List Char :=
  if c = mark ∨ c = '\\' then ['\\', c]
  else if c = '\n' then ['\\', 'n']
  else if c = '\r' then ['\\', 'r']
  else if c = '\t' then ['\\', 't']
  else if isPrintable c then [c]
  else escapeCode c

/-- A text between quotation marks. -/
def quoted (s : String) : String :=
  let mark := quotationMark s.toList
  String.ofList ([mark] ++ s.toList.flatMap (escape mark) ++ [mark])

/-! ### Marks -/

end Chip8.Text
