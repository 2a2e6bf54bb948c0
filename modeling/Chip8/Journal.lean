/-!
# The journal

What the parts of the program note while it runs: a message with its level and the part that
noted it.
-/

namespace Chip8

/-- The importance of a note. -/
inductive Level where
  | debug
  | info
  | error
deriving DecidableEq

/-- The name of a level. -/
def Level.label : Level → String
  | .debug => "DEBUG"
  | .info => "INFO"
  | .error => "ERROR"

/-- The parts of the program that take notes. -/
inductive Component where
  | loader
  | processor
  | dump
  | host
deriving DecidableEq

/-- The name under which a part takes notes. -/
def Component.label : Component → String
  | .loader => "ccell.hostio"
  | .processor => "ccell.cpu"
  | .dump => "ccell.debugger"
  | .host => "ccell.frontend"

/-- A note. -/
structure Note where
  level : Level
  component : Component
  message : String
deriving DecidableEq

namespace Note

/-- A note with its level in front. -/
def text (n : Note) : String := s!"{n.level.label} {n.component.label}: {n.message}"

/-- A note as it is written to the terminal. -/
def line (n : Note) : String := s!"[{n.level.label}] {n.component.label}: {n.message}\n"

end Note

end Chip8
