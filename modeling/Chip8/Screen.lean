import Chip8.Latest
import Chip8.Memory

/-!
# The screen

Pixels are drawn into the video memory, one location for each pixel, row by row. A drawing
instruction schedules a redraw, and a scheduled redraw publishes the pixels as a whole, so the
host never shows a picture that is half drawn. Pixels beyond an edge of the display appear at the
opposite side.
-/

namespace Chip8

/-- The number of columns and rows of a display. -/
structure Geometry where
  width : Int
  height : Int
deriving DecidableEq

namespace Geometry

/-- The display of the machine. -/
def standard : Geometry := ⟨64, 32⟩

/-- The number of pixels. -/
def pixels (g : Geometry) : Int := g.width * g.height

/-- The video memory of a display. -/
def bank (g : Geometry) : Bank := ⟨"VRAM", 1, g.pixels.toNat⟩

end Geometry

/-- The pixels of a display row by row, a byte for each. -/
abbrev Frame := List Nat

/-- A screen with the slot through which it publishes frames. -/
structure Screen (g : Geometry) where
  vram : Memory g.bank
  display : Latest Frame
  /-- Whether a redraw is scheduled. -/
  redraw : Bool
deriving DecidableEq

namespace Screen

variable {g : Geometry}

/-- The screen with all pixels off. -/
def blank : Screen g := ⟨.zeros, .empty, false⟩

/-- The screen for a display, the pixels of which a memory must be able to hold. -/
def ofGeometry (free : Storage) (g : Geometry) : Except Fault (Screen g) := do
  Bank.checkSize free g.pixels
  return blank

/-- The screen with all pixels switched off. -/
def clear (fb : Screen g) : Screen g := { fb with vram := .zeros }

/-- The address of the pixel in a column and a row, both taken around the edges. -/
def address (g : Geometry) (x y : Int) : Except Fault Int :=
  if g.width = 0 ∨ g.height = 0 then .error .noPixels
  else .ok (y.fmod g.height * g.width + x.fmod g.width)

/-- Switches a pixel, and tells whether it was on. -/
def flip (fb : Screen g) (x y : Int) : Except Fault (Bool × Screen g) := do
  let location ← address g x y
  let pixel ← fb.vram.read location 1
  let vram ← fb.vram.write location (pixel ^^^ 1 : Nat)
  return (pixel == 1, { fb with vram := vram })

/-- The pixel at the address that a column and a row have without regard to the edges. -/
def pixel (fb : Screen g) (x y : Int) : Except Fault Nat :=
  fb.vram.read (y * g.width + x) 1

/-- The screen with a redraw scheduled. -/
def requestRedraw (fb : Screen g) : Screen g := { fb with redraw := true }

/-- All pixels. -/
def snapshot (fb : Screen g) : Except Fault Frame :=
  fb.vram.readBytes 0 g.pixels

/-- Publishes all pixels if a redraw is scheduled, and tells whether it was. -/
def draw (fb : Screen g) : Except Fault (Bool × Screen g) :=
  if fb.redraw then do
    let frame ← fb.snapshot
    return (true, { fb with display := fb.display.put frame, redraw := false })
  else .ok (false, fb)

/-- Takes the newest frame that was published since the last one was taken. -/
def takeFrame (fb : Screen g) : Option Frame × Screen g :=
  let (frame, display) := fb.display.take
  (frame, { fb with display := display })

end Screen

end Chip8
