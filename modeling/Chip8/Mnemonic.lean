import Chip8.Numeral.Hex
import Chip8.Numeral.Length
import Chip8.Opcode

/-!
# Mnemonics

A mnemonic is the text of an instruction with places for the fields of the decoded word. It may
be written as a template, in which a field stands between curly brackets, followed by a colon and
its number format, if any; doubled brackets stand for themselves.
-/

namespace Chip8

/-- The fields that a mnemonic may show. -/
inductive Field where
  | word
  | x
  | y
  | n
  | kk
  | nnn
deriving DecidableEq

/-- The value of a field. -/
def Opcode.field (op : Opcode) : Field → Int
  | .word => op.word
  | .x => op.x.val
  | .y => op.y.val
  | .n => op.n
  | .kk => op.kk
  | .nnn => op.nnn

/-- How a field is written. -/
inductive Style where
  | decimal
  /-- Hexadecimal digits, at least as many as given. -/
  | hex (width : Nat)
deriving DecidableEq

/-- A number in a style. -/
def Style.text : Style → Int → String
  | .decimal, v => toString v
  | .hex width, v => Hex.padded width v

/-- A part of a mnemonic. -/
inductive Piece where
  | text (s : String)
  | field (f : Field) (style : Style)
deriving DecidableEq

/-- The pieces of a mnemonic in order. -/
abbrev Mnemonic := List Piece

/-- A piece with the field of a word put in its place. -/
def Piece.describe (op : Opcode) : Piece → String
  | .text s => s
  | .field f style => style.text (op.field f)

/-- Whether a number can be written in a style. -/
def Style.canWrite : Style → Int → Bool
  | .decimal, v => Numeral.isWritable v
  | .hex _, _ => true

/-- Whether the field of a word can be put in the place of a piece. -/
def Piece.canDescribe (op : Opcode) : Piece → Bool
  | .text _ => true
  | .field f style => style.canWrite (op.field f)

namespace Mnemonic

/-- The text of a mnemonic for a decoded word. -/
def describe (m : Mnemonic) (op : Opcode) : String :=
  String.join (m.map (Piece.describe op))

/-- The text of a mnemonic for a decoded word, unless a field has too many digits for it. -/
def describe? (m : Mnemonic) (op : Opcode) : Option String :=
  if m.all (Piece.canDescribe op) then some (m.describe op) else none

/-! ### Templates -/

/-- The field of a name. -/
def field? : List Char → Option Field
  | ['w', 'o', 'r', 'd'] => some .word
  | ['x'] => some .x
  | ['y'] => some .y
  | ['n'] => some .n
  | ['k', 'k'] => some .kk
  | ['n', 'n', 'n'] => some .nnn
  | _ => none

/-- The style that a number format denotes. -/
def style? : List Char → Option Style
  | [] => some .decimal
  | ['x'] => some (.hex 0)
  | ['0', d, 'x'] => if d.isDigit then some (.hex (d.toNat - '0'.toNat)) else none
  | _ => none

/-- The field and the style that stand between brackets. -/
def place? (cs : List Char) : Option Piece := do
  let f ← field? (cs.takeWhile (· != ':'))
  let style ← style? ((cs.dropWhile (· != ':')).drop 1)
  return .field f style

/-- The pieces of a template. Characters between brackets are collected in `inside`, which is
nothing outside of brackets. -/
def piecesFrom : Option (List Char) → List Char → Option Mnemonic
  | none, [] => some []
  | some _, [] => none
  | none, '\x7b' :: '\x7b' :: cs => do return .text "\x7b" :: (← piecesFrom none cs)
  | none, '\x7d' :: '\x7d' :: cs => do return .text "\x7d" :: (← piecesFrom none cs)
  | none, '\x7b' :: cs => piecesFrom (some []) cs
  | none, '\x7d' :: _ => none
  | none, c :: cs => do return .text (String.singleton c) :: (← piecesFrom none cs)
  | some inside, '\x7d' :: cs => do return (← place? inside.reverse) :: (← piecesFrom none cs)
  | some inside, c :: cs => piecesFrom (some (c :: inside)) cs

/-- The mnemonic that a template denotes. -/
def ofTemplate? (template : String) : Option Mnemonic :=
  piecesFrom none template.toList

end Mnemonic

end Chip8
