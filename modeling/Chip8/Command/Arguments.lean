import Chip8.Command.Token
import Chip8.Processor
import Chip8.Host.Keymap

/-!
# Arguments

The tokens of a command line ask for one thing after the other: a switch is set, the file is
named, or a text is left over. The first plain argument that is no value names the file. A switch
whose value is a double hyphen is left without a value.

What is asked for is done in order, so of several faults the first one decides, and a request for
help is granted unless something before it is refused. Only in the end it matters whether a file
was named and whether something was left over.
-/

namespace Chip8.Command

/-! ### Requests -/

/-- What a command line asks for. -/
inductive Request where
  /-- A switch that takes no value is set. -/
  | flag (s : Switch)
  /-- A switch is set to a value. -/
  | assign (s : Switch) (value : String)
  /-- The file is named. -/
  | file (name : String)
  /-- A text is left over. -/
  | extra (text : String)
  /-- The rest cannot be read. -/
  | fail (r : Refusal)
deriving DecidableEq

/-- What tokens ask for once the file is named. -/
def requestsBehindFile : List Token → List Request
  | [] => []
  | .plain text :: tokens => .extra text :: requestsBehindFile tokens
  | .separator :: tokens => .extra "--" :: requestsBehindFile tokens
  | .flags row :: tokens => row.map .flag ++ requestsBehindFile tokens
  | .assigned row s value :: tokens =>
      row.map .flag ++ .assign s value :: requestsBehindFile tokens
  | .awaiting row s :: .plain value :: tokens =>
      row.map .flag ++ .assign s value :: requestsBehindFile tokens
  | .awaiting _ s :: _ => [.fail (.missingValue s)]
  | .unknown text :: tokens => .extra text :: requestsBehindFile tokens
  | .faulty r :: _ => [.fail r]

/-- What tokens ask for. A double hyphen next to the name of the file is not left over. -/
def requests : List Token → List Request
  | [] => []
  | .plain text :: .separator :: tokens => .file text :: requestsBehindFile tokens
  | .plain text :: tokens => .file text :: requestsBehindFile tokens
  | .separator :: .plain text :: tokens => .file text :: requestsBehindFile tokens
  | .separator :: tokens => .extra "--" :: requests tokens
  | .flags row :: tokens => row.map .flag ++ requests tokens
  | .assigned row s value :: tokens => row.map .flag ++ .assign s value :: requests tokens
  | .awaiting row s :: .plain value :: tokens =>
      row.map .flag ++ .assign s value :: requests tokens
  | .awaiting _ s :: _ => [.fail (.missingValue s)]
  | .unknown text :: tokens => .extra text :: requests tokens
  | .faulty r :: _ => [.fail r]

/-! ### Settings -/

/-- What the switches of a command line set. -/
structure Settings where
  rate : Setting Int
  renderer : Setting String
  scale : Setting Int
  mute : Setting Bool
  keymap : Setting String
  palette : Setting String
  seed : Setting Int
  debug : Bool
deriving DecidableEq

namespace Settings

/-- The settings without any switch. -/
def initial : Settings where
  rate := .given Rate.usual
  renderer := .given RendererKind.window.name
  scale := .usual
  mute := .given false
  keymap := .given Keymap.defaultText
  palette := .usual
  seed := .usual
  debug := false

/-- The integer that a value denotes. -/
def integer (s : Switch) (value : String) : Except Refusal Int :=
  match Numeral.decimal? value with
  | some n => .ok n
  | none => .error (.notInteger s value)

/-- Whether a value denotes one rather than zero. -/
def truth (s : Switch) (value : String) : Except Refusal Bool := do
  let n ← integer s value
  if n = 0 ∨ n = 1 then return n == 1
  else throw (.notAChoice s (toString n) ["0", "1"])

/-- The value, which must name a renderer. -/
def rendererName (s : Switch) (value : String) : Except Refusal String :=
  if value ∈ rendererChoices then .ok value
  else .error (.notAChoice s (Text.quoted value) (rendererChoices.map Text.quoted))

/-- What is given by a value; a double hyphen gives nothing, whatever the value should denote. -/
def entry {α : Type} (read : String → Except Refusal α) (value : String) :
    Except Refusal (Setting α) :=
  if value = "--" then .ok .blank else do return .given (← read value)

/-- The settings after a switch is set to a value. -/
def assign (settings : Settings) (s : Switch) (value : String) : Except Refusal Settings :=
  match s with
  | .rate => do return { settings with rate := ← entry (integer s) value }
  | .renderer => do return { settings with renderer := ← entry (rendererName s) value }
  | .scale => do return { settings with scale := ← entry (integer s) value }
  | .mute => do return { settings with mute := ← entry (truth s) value }
  | .keymap => do return { settings with keymap := ← entry .ok value }
  | .palette => do return { settings with palette := ← entry .ok value }
  | .seed => do return { settings with seed := ← entry (integer s) value }
  | .help => .ok settings
  | .debug => .ok settings

end Settings

/-! ### Outcomes -/

/-- A command line that was accepted. -/
structure Arguments where
  filename : String
  settings : Settings
deriving DecidableEq

/-- What becomes of a command line. -/
inductive Reading where
  | accepted (a : Arguments)
  /-- Help is asked for. -/
  | help
  | refused (r : Refusal)
deriving DecidableEq

/-- What was read of a command line. -/
structure Draft where
  settings : Settings
  filename : Option String
  /-- What is left over, in order. -/
  extras : List String
deriving DecidableEq

/-- What becomes of a command line of which everything was read. -/
def Draft.conclude (d : Draft) : Reading :=
  match d.filename with
  | none => .refused .missingFile
  | some name =>
      if d.extras = [] then .accepted ⟨name, d.settings⟩ else .refused (.unrecognized d.extras)

/-- Does what a command line asks for, one thing after the other. -/
def obey (d : Draft) : List Request → Reading
  | [] => d.conclude
  | .flag .help :: _ => .help
  | .flag .debug :: rest => obey { d with settings := { d.settings with debug := true } } rest
  | .flag _ :: rest => obey d rest
  | .assign s value :: rest =>
      match d.settings.assign s value with
      | .ok settings => obey { d with settings := settings } rest
      | .error r => .refused r
  | .file name :: rest => obey { d with filename := some name } rest
  | .extra text :: rest => obey { d with extras := d.extras ++ [text] } rest
  | .fail r :: _ => .refused r

/-- Reads a command line. -/
def Arguments.read (arguments : List String) : Reading :=
  match Token.ofArguments arguments with
  | .ok tokens => obey ⟨.initial, none, []⟩ (requests tokens)
  | .error r => .refused r

end Chip8.Command
