import Chip8.Processor.Run
import Chip8.Host.Buzzer
import Chip8.Host.Display
import Chip8.Host.Keyboard

/-!
# The host

The host holds the devices beside a running machine and serves them in refreshes. A refresh asks
the keyboard whether the user wants to quit, publishes the keys, shows the newest frame and
switches the buzzer. It meets the processor only in the three slots, each of which it touches
once.
-/

namespace Chip8

/-- The devices of the host. -/
structure Host where
  renderer : Renderer
  keyboard : Keyboard
  buzzer : Buzzer
  /-- The events and the keys of the desktop, if a window is open. -/
  desktop : Option Desktop
  /-- The last breakdown of a processor that the host learned of. -/
  lastBreakdown : Option Breakdown

/-- A processor with its host. -/
structure System where
  cpu : Processor
  host : Host

/-- An action of the host. -/
abbrev HostAction := EStateM HostError System

namespace Host

/-! ### The parts of a refresh -/

/-- Asks whether the user wants to quit; the events that waited are gone afterwards. -/
def quitAsked : HostAction Bool := fun s =>
  match s.host.keyboard.asksToQuit s.host.desktop with
  | .error e => .error e s
  | .ok quit =>
      let desktop := s.host.desktop.map fun d => { d with events := [] }
      .ok quit { s with host := { s.host with desktop := desktop } }

/-- Publishes the keys that are held down. -/
def publishKeys : HostAction Unit := fun s =>
  match s.host.keyboard.refresh s.host.desktop with
  | .error e => .error e s
  | .ok keyboard =>
      .ok ()
        { cpu := { s.cpu with keyChannel := s.cpu.keyChannel.deliver keyboard.down }
          host := { s.host with keyboard := keyboard } }

/-- Takes the newest frame that was published and not taken before. -/
def takeFrame : HostAction (Option Frame) := fun s =>
  let (frame, screen) := s.cpu.machine.screen.takeFrame
  .ok frame { s with cpu := { s.cpu with machine := { s.cpu.machine with screen := screen } } }

/-- Draws a frame. -/
def draw (frame : Frame) : HostAction Unit := fun s =>
  match Renderer.present frame s.host.renderer with
  | .ok _ renderer => .ok () { s with host := { s.host with renderer := renderer } }
  | .error e renderer => .error e { s with host := { s.host with renderer := renderer } }

/-- Shows the newest frame, if there is one. -/
def showFrame : HostAction Unit := do
  match ← takeFrame with
  | none => return ()
  | some frame => draw frame

/-- Switches the buzzer, if the machine wants it switched. -/
def switchBuzzer : HostAction Unit :=
  modify fun s =>
    let (state, channel) := s.cpu.buzzerChannel.poll
    let buzzer :=
      match state with
      | none => s.host.buzzer
      | some on => s.host.buzzer.switch on
    { cpu := { s.cpu with buzzerChannel := channel }, host := { s.host with buzzer := buzzer } }

/-- One refresh; the result tells whether the user wants to quit, and then nothing else was
done. -/
def refresh : HostAction Bool := do
  if ← quitAsked then return true
  publishKeys
  showFrame
  switchBuzzer
  return false

end Host

end Chip8
