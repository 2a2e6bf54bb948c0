/-!
# Lines

A text is divided into lines by the line feed, the carriage return, the two together, the
vertical tab, the form feed, the three separators of files, groups and records, the next-line
control and the two Unicode separators. A divider at the end does not begin another line.
-/

namespace Chip8.Text

/-- Whether a character ends a line. -/
def endsLine (c : Char) : Bool :=
  let n := c.toNat
  (10 ≤ n && n ≤ 13) || (0x1c ≤ n && n ≤ 0x1e) || n == 0x85 || n == 0x2028 || n == 0x2029

/-- A reversed text without the divider that ended it, if any. -/
def dropLineEnd : List Char → List Char
  | '\n' :: '\r' :: cs => cs
  | c :: cs => if endsLine c then cs else c :: cs
  | [] => []

/-- The last line of a text. -/
def lastLine (s : String) : String :=
  String.ofList ((dropLineEnd s.toList.reverse).takeWhile (!endsLine ·)).reverse

end Chip8.Text
