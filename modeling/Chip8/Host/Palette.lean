import Chip8.Host.Error
import Chip8.Numeral.Reading
import Chip8.Text.Split

/-!
# Palettes

A window shows pixels in two colours. A palette is written as one or two colours, separated by a
comma, the background first; a colour is written in six characters which read as a number in base
sixteen, two digits each for red, green and blue.
-/

namespace Chip8

/-- A colour with a byte for each component. -/
structure Colour where
  red : Nat
  green : Nat
  blue : Nat
deriving DecidableEq

namespace Colour

/-- The colour of a number; a negative number has none. -/
def ofCode (code : Int) : Except HostError Colour :=
  if code < 0 then .error .negativeColour
  else .ok ⟨code.toNat / 65536, code.toNat / 256 % 256, code.toNat % 256⟩

/-- The components in order. -/
def components (c : Colour) : List Nat := [c.red, c.green, c.blue]

end Colour

/-- The colours of pixels that are off and on. -/
structure Palette where
  background : Colour
  foreground : Colour
deriving DecidableEq

namespace Palette

/-- The number of the background unless another is given. -/
def defaultBackground : Int := 0x222222

/-- The number of the foreground unless another is given. -/
def defaultForeground : Int := 0xdddddd

/-- The number that the text of a colour denotes. -/
def codeOf (part : List Char) : Except HostError Int :=
  if part.length = 6 then
    match Numeral.hexadecimal? (String.ofList part) with
    | some code => .ok code
    | none => .error .badColour
  else .error .colourLength

/-- The palette that a text denotes, or the default one without a text. All colours are read
before the first of them is divided into its components. -/
def ofText : Option String → Except HostError Palette
  | none => do
      return ⟨← Colour.ofCode defaultBackground, ← Colour.ofCode defaultForeground⟩
  | some s => do
      let parts := Text.split ',' s.toList
      if 2 < parts.length then .error .colourCount
      else do
        let codes ← parts.mapM codeOf
        let background ← Colour.ofCode (codes.getD 0 defaultBackground)
        let foreground ← Colour.ofCode (codes.getD 1 defaultForeground)
        return ⟨background, foreground⟩

/-- The colour of a pixel, which must be off or on. -/
def colour? (p : Palette) (pixel : Nat) : Option Colour := [p.background, p.foreground][pixel]?

end Palette

end Chip8
