import Chip8.Host.Keymap
import Chip8.Channel

/-!
# Keyboards

A keyboard tells the host which of the sixteen keys are held down and whether the user wants
to quit. A desktop keyboard asks the window system, which can be asked only while a window is
open. A headless keyboard has no keys of its own; its state is set by whoever embeds the machine.
-/

namespace Chip8

/-- An event that waits in the window system. -/
inductive DesktopEvent where
  /-- The window is closed by the user. -/
  | quit
  | keyDown (code : Int)
  | keyUp (code : Int)
  | other
deriving DecidableEq

namespace DesktopEvent

/-- The code of the Escape key. -/
def escape : Int := 27

/-- Whether an event asks to quit: the window was closed or Escape was released. -/
def asksToQuit : DesktopEvent → Bool
  | quit => true
  | keyUp code => code == escape
  | _ => false

end DesktopEvent

/-- The events and the keys of a desktop. -/
structure Desktop where
  /-- The events that wait. -/
  events : List DesktopEvent
  /-- The codes of the keys that are held down. -/
  held : List Int
deriving DecidableEq

/-- Where a keyboard takes its state from. -/
inductive KeyboardKind where
  | headless
  | desktop
deriving DecidableEq

/-- A keyboard. -/
structure Keyboard where
  kind : KeyboardKind
  keymap : Keymap
  /-- The states of the keys when they were last asked for. -/
  down : KeySnapshot
  /-- Whether a headless keyboard reports that the user wants to quit. -/
  quitting : Bool
deriving DecidableEq

namespace Keyboard

/-- A keyboard with a keymap and no key held down. -/
def ofKeymap (kind : KeyboardKind) (keymap : Keymap) : Keyboard :=
  ⟨kind, keymap, Vector.replicate 16 false, false⟩

/-- Whether the user wants to quit. -/
def asksToQuit (k : Keyboard) (desktop : Option Desktop) : Except HostError Bool :=
  match k.kind, desktop with
  | .headless, _ => .ok k.quitting
  | .desktop, none => .error .noWindow
  | .desktop, some d => .ok (d.events.any DesktopEvent.asksToQuit)

/-- The states of the keys after each key of a keymap takes the state of its code. -/
def takeHeld (held : List Int) (down : KeySnapshot) (pairs : List (Nat × Int)) : KeySnapshot :=
  pairs.foldl (fun down (key, code) => down.setIfInBounds key (held.contains code)) down

/-- Asks for the keys that are held down; the keyboard afterwards knows their states. -/
def refresh (k : Keyboard) (desktop : Option Desktop) : Except HostError Keyboard :=
  match k.kind, desktop with
  | .headless, _ => .ok k
  | .desktop, none => .error .noWindow
  | .desktop, some d => .ok { k with down := takeHeld d.held k.down k.keymap.pairs }

end Keyboard

end Chip8
