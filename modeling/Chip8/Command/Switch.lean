import Chip8.Startup.Options
import Chip8.Text.Quoted

/-!
# Switches

The command line consists of the name of a file and of switches, which have a long name and may
have a short one. A switch stands alone or takes a value; this module lists the switches, and the
reasons for which a command line is refused.
-/

namespace Chip8.Command

/-- The switches of the command line. -/
inductive Switch where
  | help
  | rate
  | renderer
  | scale
  | mute
  | keymap
  | palette
  | seed
  | debug
deriving DecidableEq

namespace Switch

/-- The switches in the order in which they are described. -/
def all : List Switch := [help, rate, renderer, scale, mute, keymap, palette, seed, debug]

/-- The names of a switch, the short one first. -/
def names : Switch → List String
  | help => ["-h", "--help"]
  | rate => ["-r", "--rate"]
  | renderer => ["--renderer"]
  | scale => ["-s", "--scale"]
  | mute => ["-m", "--mute"]
  | keymap => ["-k", "--keymap"]
  | palette => ["--palette"]
  | seed => ["--seed"]
  | debug => ["-d", "--debug"]

/-- How a switch is called in messages. -/
def label (s : Switch) : String := "/".intercalate s.names

/-- Whether a switch takes a value. -/
def takesValue : Switch → Bool
  | help => false
  | debug => false
  | _ => true

/-- The names of all switches with what they name. -/
def named : List (String × Switch) :=
  all.flatMap fun s => s.names.map fun name => (name, s)

/-- The switch of a name. -/
def ofName? (name : String) : Option Switch := named.lookup name

/-- The switch with a short name of the given letter. -/
def ofLetter? (c : Char) : Option Switch := ofName? (String.ofList ['-', c])

end Switch

/-- The names of the renderers that can be chosen. -/
def rendererChoices : List String := RendererKind.all.map RendererKind.name

/-- Why a command line is refused. -/
inductive Refusal where
  /-- An abbreviation stands for more than one name. -/
  | ambiguous (argument : String) (candidates : List String)
  /-- A switch that takes a value stands without one. -/
  | missingValue (s : Switch)
  /-- A switch that stands alone has a value. -/
  | ignoredValue (s : Switch) (value : String)
  /-- The value of a switch is no integer. -/
  | notInteger (s : Switch) (value : String)
  /-- The value of a switch is none of those that can be chosen. -/
  | notAChoice (s : Switch) (value : String) (choices : List String)
  /-- No file is named. -/
  | missingFile
  /-- Some arguments are neither the file nor known switches. -/
  | unrecognized (arguments : List String)
deriving DecidableEq

/-- Some texts with commas between them. -/
def commaSeparated (texts : List String) : String := ", ".intercalate texts

/-- The text in which a refusal is reported. -/
def Refusal.message : Refusal → String
  | ambiguous argument candidates =>
      s!"ambiguous option: {argument} could match {commaSeparated candidates}"
  | missingValue s => s!"argument {s.label}: expected one argument"
  | ignoredValue s value =>
      s!"argument {s.label}: ignored explicit argument {Text.quoted value}"
  | notInteger s value => s!"argument {s.label}: invalid int value: {Text.quoted value}"
  | notAChoice s value choices =>
      s!"argument {s.label}: invalid choice: {value} (choose from {commaSeparated choices})"
  | missingFile => "the following arguments are required: filename"
  | unrecognized arguments => "unrecognized arguments: " ++ " ".intercalate arguments

end Chip8.Command
