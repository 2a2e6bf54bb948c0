import Chip8.Screen
import Chip8.Host.Palette
import Chip8.Product

/-!
# Displays

A plain display keeps the last frame it was given. A window also paints it, pixel by pixel over what
it painted before, and gives the painted bytes to the window system, which stretches them to the
size of the window. What the window system takes and what it refuses is its own affair.
-/

namespace Chip8

/-- A display that keeps frames. -/
structure Display where
  scale : Int
  width : Int
  height : Int
  /-- The last frame. -/
  frame : Option Frame
  /-- The number of frames that were accepted. -/
  drawn : Nat
deriving DecidableEq

namespace Display

/-- The scale of a display that keeps frames, unless another is given. -/
def defaultScale : Int := 1

/-- A display without a resolution. -/
def ofScale (scale : Int) : Display := ⟨scale, 0, 0, none, 0⟩

/-- The display with another resolution. -/
def resize (d : Display) (width height : Int) : Display :=
  { d with width := width, height := height }

/-- The display with a further frame, which must have a byte for each pixel. -/
def present (d : Display) (frame : Frame) : Except HostError Display :=
  if (frame.length : Int) = d.width * d.height then
    .ok { d with frame := some frame, drawn := d.drawn + 1 }
  else .error .frameSize

end Display

/-- Painted pixels row by row, with three bytes for each. -/
structure Picture where
  width : Int
  height : Int
  bytes : Array Nat
deriving DecidableEq

/-- What windows are opened and drawn by. It may refuse what it is asked for, and then tells why. -/
structure WindowSystem where
  /-- Opens a window of a width and a height. -/
  opens : Int → Int → Except String Unit
  /-- Shows a picture after a number of frames were accepted, in a window of a width and a height
  which may have been closed. -/
  shows : Nat → Bool → Int → Int → Picture → Except String Unit

/-- The window system that refuses nothing. -/
def WindowSystem.willing : WindowSystem := ⟨fun _ _ => .ok (), fun _ _ _ _ _ => .ok ()⟩

/-- A window with its display. -/
structure Window where
  system : WindowSystem
  display : Display
  palette : Palette
  /-- The bytes of the painted pixels. -/
  buffer : Array Nat
  /-- The last picture that was shown. -/
  shown : Option Picture
  title : String
  isOpen : Bool

/-- An action on a window. -/
abbrev WindowAction := EStateM HostError Window

namespace Window

/-- The width of a window unless another is given. -/
def defaultScale : Int := 640

/-- The width and the height of a window, which is half as high as it is wide. -/
def size (w : Window) : Int × Int := (w.display.scale, w.display.scale / 2)

/-- The window of a width, with the colours of a palette, before anything is painted. -/
def ofScale (system : WindowSystem) (scale : Int) (palette : Palette) : Window :=
  ⟨system, .ofScale scale, palette, #[], none, Product.name, true⟩

/-- Opens a window of a width and with the colours of a palette. -/
def ofPalette (system : WindowSystem) (scale : Int) (palette : Palette) :
    Except HostError Window :=
  match system.opens scale (scale / 2) with
  | .ok _ => .ok (ofScale system scale palette)
  | .error reason => .error (.refused reason)

/-- Opens a window of a width and with a palette, each of which has a default. -/
def create (system : WindowSystem) (scale : Option Int) (palette : Option String) :
    Except HostError Window := do
  ofPalette system (scale.getD defaultScale) (← Palette.ofText palette)

/-- The window with another resolution, painted in the colour of the background. -/
def resize (w : Window) (width height : Int) : Window :=
  { w with
    display := w.display.resize width height
    buffer :=
      (List.replicate (width * height).toNat w.palette.background.components).flatten.toArray }

/-- The window with another resolution, if its pixels can be counted and their bytes stored. -/
def tryResize (free : Storage) (w : Window) (width height : Int) : Except HostError Window :=
  let pixels := width * height
  if !Signed.holds 63 pixels then .error (.excessive .addresses)
  else
    match Excess.ofBytes? free (3 * max pixels 0) with
    | some excess => .error (.excessive excess)
    | none => .ok (w.resize width height)

/-! ### Drawing -/

/-- Keeps a frame. -/
def keep (frame : Frame) : WindowAction Unit := fun w =>
  match w.display.present frame with
  | .ok display => .ok () { w with display := display }
  | .error e => .error e w

/-- The bytes with those from `first` to before `last` replaced by others. -/
def splice (bytes : Array Nat) (first last : Nat) (others : List Nat) : Array Nat :=
  bytes.extract 0 first ++ others ++ bytes.extract last

/-- Paints the pixel at a location in the colour of a byte, which must be off or on. -/
def paintPixel (location byte : Nat) : WindowAction Unit := fun w =>
  match w.palette.colour? byte with
  | some c =>
      .ok () { w with buffer := splice w.buffer (location * 3) (location * 3 + 3) c.components }
  | none => .error .badPixel w

/-- Paints the pixels from a location on, one after the other. -/
def paint (location : Nat) : List Nat → WindowAction Unit
  | [] => return ()
  | byte :: bytes => do
      paintPixel location byte
      paint (location + 1) bytes

/-- What is painted, as a picture. -/
def picture (w : Window) : Picture := ⟨w.display.width, w.display.height, w.buffer⟩

/-- What the window system answers when it is asked to show what is painted. -/
def answer (w : Window) : Except String Unit :=
  w.system.shows w.display.drawn w.isOpen w.size.1 w.size.2 w.picture

/-- Shows what is painted. -/
def refresh : WindowAction Unit := fun w =>
  match w.answer with
  | .ok _ => .ok () { w with shown := some w.picture }
  | .error reason => .error (.refused reason) w

/-- Draws a frame. A byte that is neither on nor off ends the painting, and then the window shows
what it showed before. -/
def present (frame : Frame) : WindowAction Unit := do
  keep frame
  paint 0 frame
  refresh

/-! ### Titles -/

/-- The window with another title. -/
def retitle (w : Window) (title : String) : Window := { w with title := title }

/-- The window with another title, which must not contain the character zero. -/
def tryRetitle (w : Window) (title : String) : Except HostError Window :=
  if title.contains '\x00' then .error .badTitle else .ok (w.retitle title)

/-- The window after it is closed, when it has no title. -/
def close (w : Window) : Window := { w with title := "", isOpen := false }

end Window

/-- The displays the host can draw on. -/
inductive Renderer where
  | plain (d : Display)
  | window (w : Window)

namespace Renderer

/-- The display that keeps the frames. -/
def display : Renderer → Display
  | plain d => d
  | window w => w.display

/-- The renderer with another resolution. -/
def resize (width height : Int) : Renderer → Renderer
  | plain d => plain (d.resize width height)
  | window w => window (w.resize width height)

/-- The renderer with another resolution, if a window can store its pixels. -/
def tryResize (free : Storage) (width height : Int) : Renderer → Except HostError Renderer
  | plain d => .ok (plain (d.resize width height))
  | window w => window <$> w.tryResize free width height

/-- The renderer with another title, which only a window shows. -/
def retitle (title : String) : Renderer → Renderer
  | plain d => plain d
  | window w => window (w.retitle title)

/-- The renderer with another title, if a window can show it. -/
def tryRetitle (title : String) : Renderer → Except HostError Renderer
  | plain d => .ok (plain d)
  | window w => window <$> w.tryRetitle title

/-- Draws a frame. -/
def present (frame : Frame) : EStateM HostError Renderer Unit := fun r =>
  match r with
  | plain d =>
      match d.present frame with
      | .ok d => .ok () (plain d)
      | .error e => .error e (plain d)
  | window w =>
      match Window.present frame w with
      | .ok _ w => .ok () (window w)
      | .error e w => .error e (window w)

/-- The renderer after it is shut down. -/
def close : Renderer → Renderer
  | plain d => plain d
  | window w => window w.close

end Renderer

end Chip8
