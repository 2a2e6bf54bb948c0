import Chip8.Command.Arguments
import Chip8.Startup
import Chip8.Text.Line

/-!
# Sessions of the command line

A command line is read, the program is started with what it sets, and the exit tells how that
ended. Of a failure that the user can mend the last line is told.
-/

namespace Chip8.Command

/-- How a session ends. -/
inductive Exit where
  | success
  /-- Help was asked for. -/
  | help
  /-- The command line was refused. -/
  | refused (r : Refusal)
  /-- The program failed with a message to the user. -/
  | failed (message : String)
  /-- The program failed in a way that the user cannot mend. -/
  | crashed (f : Failure)
deriving DecidableEq

/-- The options that arguments stand for. -/
def Arguments.options (a : Arguments) : Options where
  debug := some (.given a.settings.debug)
  renderer := some a.settings.renderer
  mute := some a.settings.mute
  filename := some (.given (.file a.filename))
  seed := some (a.settings.seed.map .integer)
  scale := some a.settings.scale
  palette := some a.settings.palette
  keymap := some a.settings.keymap
  rate := some (a.settings.rate.map .integer)

/-- The exit after a start. -/
def exitOf : Except Failure Unit → Exit
  | .ok _ => .success
  | .error f => if f.isReported then .failed (Text.lastLine f.message) else .crashed f

/-- A session whose run, if there is one, ends within `fuel` moves of the processor. -/
def run? (arguments : List String) (around : Surroundings) (fuel : Nat) :
    Option (Exit × Transcript) :=
  match Arguments.read arguments with
  | .help => some (.help, .empty)
  | .refused r => some (.refused r, .empty)
  | .accepted a => do
      let (result, t) ← Startup.run? a.options around fuel
      return (exitOf result, t)

end Chip8.Command
