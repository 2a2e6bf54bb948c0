import Chip8.Host.Display
import Chip8.Startup.Value

/-!
# Options of a start

Whoever starts the program gives all options, and may leave each to its default. An option can
also be blank, or odd: something that is no value of its kind. That is taken for a value where any
value would do, and is noticed no earlier than where the option is used.
-/

namespace Chip8

/-- What is given for an option. -/
inductive Setting (α : Type) where
  /-- The option is left to its default. -/
  | usual
  /-- The option is there, but nothing stands for its value. -/
  | blank
  /-- Something stands for the value which is no value of the option. -/
  | odd
  | given (a : α)
deriving DecidableEq

namespace Setting

/-- The value that is given, or another one if there is none. -/
def getD {α : Type} (setting : Setting α) (other : α) : α :=
  match setting with
  | given a => a
  | _ => other

/-- The setting with a function applied to the value that is given. -/
def map {α β : Type} (f : α → β) : Setting α → Setting β
  | usual => usual
  | blank => blank
  | odd => odd
  | given a => given (f a)

end Setting

/-- The renderers that can be chosen. -/
inductive RendererKind where
  /-- A window, with a keyboard and a buzzer of the desktop. -/
  | window
  /-- A display which only keeps the frames. -/
  | plain
deriving DecidableEq

namespace RendererKind

/-- The renderers in the order in which they are offered; the first one is the default. -/
def all : List RendererKind := [window, plain]

/-- The name of a renderer. -/
def name : RendererKind → String
  | window => "pygame"
  | plain => "null"

/-- The renderer of a name. -/
def ofName? (name : String) : Option RendererKind := all.find? (·.name == name)

end RendererKind

/-- Where the program is read from. -/
inductive ProgramSource where
  /-- The file of a name. -/
  | file (name : String)
  /-- A channel that was opened before, by its number. -/
  | channel (number : Int)
deriving DecidableEq

/-- The options of a start, as far as they are there. -/
structure Options where
  /-- Whether every instruction is noted. -/
  debug : Option (Setting Bool)
  /-- The name of the renderer. -/
  renderer : Option (Setting String)
  /-- Whether the buzzer stays silent. -/
  mute : Option (Setting Bool)
  /-- Where the program is read from, which has no default. -/
  filename : Option (Setting ProgramSource)
  /-- The seed of the random numbers. -/
  seed : Option (Setting Seed)
  /-- The width of the window. -/
  scale : Option (Setting Int)
  palette : Option (Setting String)
  keymap : Option (Setting String)
  /-- The number of ticks in a second. -/
  rate : Option (Setting Rate)
deriving DecidableEq

/-! ### Options as values -/

namespace Value

/-- The source of the program that a value is. -/
def toSource? : Value → Option ProgramSource
  | text s => some (.file s)
  | v => v.toInteger?.map .channel

/-- The width of a window that a value is. A floating-point number stands for as many pixels as the
window system takes it for. -/
def toScale? (pixels : Floating → Int) : Value → Option Int
  | floating x => some (pixels x)
  | v => v.toInteger?

end Value

/-- The setting that a value is, if `read?` tells how it is taken for the option. -/
def Setting.ofValue {α : Type} (read? : Value → Option α) (v : Value) : Setting α :=
  match v, read? v with
  | .nothing, _ => usual
  | _, some a => given a
  | v, none => if v.isTrue then odd else blank

/-- The options that are given by name as values. -/
def Options.ofValues (pixels : Floating → Int) (find? : String → Option Value) : Options where
  debug := (find? "debug").map (.ofValue (some ∘ Value.isTrue))
  renderer := (find? "renderer").map (.ofValue Value.toName?)
  mute := (find? "mute").map (.ofValue (some ∘ Value.isTrue))
  filename := (find? "filename").map (.ofValue Value.toSource?)
  seed := (find? "seed").map (.ofValue Value.toSeed?)
  scale := (find? "scale").map (.ofValue (Value.toScale? pixels))
  palette := (find? "palette").map (.ofValue Value.toText?)
  keymap := (find? "keymap").map (.ofValue Value.toText?)
  rate := (find? "rate").map (.ofValue Value.toRate?)

end Chip8
