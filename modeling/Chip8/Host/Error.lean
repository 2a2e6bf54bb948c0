import Chip8.Excess

/-!
# Errors of the host

What can go wrong with the display, the keyboard and their settings.
-/

namespace Chip8

/-- The causes of failure of the host's devices. -/
inductive HostError where
  /-- A keymap does not list sixteen keys. -/
  | keyCount
  /-- A keymap lists something that is no integer. -/
  | keyNotInteger
  /-- A keymap lists a key twice. -/
  | duplicateKey
  /-- A palette lists more than two colours. -/
  | colourCount
  /-- A colour is not six characters long. -/
  | colourLength
  /-- A colour is not written in hexadecimal digits. -/
  | badColour
  /-- A colour is written with a minus sign. -/
  | negativeColour
  /-- A frame has not one byte for each pixel of the display. -/
  | frameSize
  /-- A byte of a frame is neither on nor off. -/
  | badPixel
  /-- The painted pixels of a resolution cannot be stored. -/
  | excessive (e : Excess)
  /-- The keyboard of a window is used while no window is open. -/
  | noWindow
  /-- A title is given which no window can have. -/
  | badTitle
  /-- The window system refuses what it is asked for. -/
  | refused (reason : String)
  /-- The mixer, by which sounds are played, does not start. -/
  | noMixer (reason : String)
deriving DecidableEq

/-- The text in which an error of the host is reported. -/
def HostError.message : HostError → String
  | .keyCount =>
      "Incorrect number of keys defined -- 16 required.  Use commas to split numbers"
  | .keyNotInteger => "Defined keys are not all integer values"
  | .duplicateKey => "Duplicate keys defined"
  | .colourCount => "Too many palette colours defined."
  | .colourLength => "Palette colours must all be 6 hex digits long."
  | .badColour => "Invalid palette colour defined."
  | .negativeColour => "a palette colour is negative"
  | .frameSize => "Frame does not match the display resolution"
  | .badPixel => "a pixel of the frame has no colour"
  | .excessive e => e.message
  | .noWindow => "no window is open"
  | .badTitle => "no window can have the title"
  | .refused reason => reason
  | .noMixer reason => reason

/-- Whether an error is due to the settings or the frame that a device was given. -/
def HostError.isReported : HostError → Bool
  | .keyCount => true
  | .keyNotInteger => true
  | .duplicateKey => true
  | .colourCount => true
  | .colourLength => true
  | .badColour => true
  | .frameSize => true
  | _ => false

end Chip8
