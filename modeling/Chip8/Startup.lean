import Chip8.Schedule
import Chip8.Startup.Failure
import Chip8.Startup.Options

/-!
# Startup

A start reads the options, loads the program, boots the machine, opens the devices and runs the
processor beside the host. What it finds around it may refuse what it is asked for. Nothing is opened
before the program has been loaded into the machine. After the run, however it ended, the devices are
closed in the order opposite to the one in which they were opened.
-/

namespace Chip8

/-- The devices which a start opens. -/
inductive Device where
  | renderer
  | keyboard
  | buzzer
deriving DecidableEq

/-- What happens to a device. -/
inductive DeviceEvent where
  | opened (d : Device)
  | closed (d : Device)
deriving DecidableEq

/-- What can be observed of a start. -/
structure Transcript where
  /-- The lines that are shown. -/
  output : List String
  journal : Array Note
  /-- What happened to the devices, in order. -/
  devices : List DeviceEvent
deriving DecidableEq

/-- The transcript before anything happened. -/
def Transcript.empty : Transcript := ⟨[], #[], []⟩

/-- An action of a start. -/
abbrev Launch := EStateM Failure Transcript

/-- How files are read. -/
abbrev FileReader := String → Except ReadError (List UInt8)

/-- What a start finds around it. -/
structure Surroundings where
  read : FileReader
  /-- The seed of the random numbers, if none is given. -/
  entropy : Int
  clock : Clock
  windows : WindowSystem
  /-- Whether the mixer starts, or why not. -/
  mixer : Except String Unit
  free : Storage

/-- Surroundings which refuse nothing but files. -/
def Surroundings.willing (read : FileReader) (entropy : Int) : Surroundings :=
  ⟨read, entropy, .instant, .willing, .ok (), fun _ => true⟩

namespace Startup

/-- Shows a line. -/
def say (line : String) : Launch Unit :=
  modify fun t => { t with output := t.output ++ [line] }

/-- Adds to the journal. -/
def record (notes : Array Note) : Launch Unit :=
  modify fun t => { t with journal := t.journal ++ notes }

/-- Remembers what happened to a device. -/
def observe (e : DeviceEvent) : Launch Unit :=
  modify fun t => { t with devices := t.devices ++ [e] }

/-- What is there for an option. -/
def require {α : Type} (name : String) : Option α → Launch α
  | none => throw (.missingOption name)
  | some a => return a

/-- The value of an option that is used, if it was not left to its default. -/
def value? {α : Type} (name : String) : Setting α → Launch (Option α)
  | .usual => return none
  | .blank => throw (.unusableOption name)
  | .odd => throw (.unusableOption name)
  | .given a => return some a

/-- The value of an option which may be blank, and then is left to its default. -/
def valueOrBlank? {α : Type} (name : String) : Setting α → Launch (Option α)
  | .blank => return none
  | setting => value? name setting

/-- The value of an option without a default. -/
def value {α : Type} (name : String) (setting : Setting α) : Launch α := do
  match ← value? name setting with
  | some a => return a
  | none => throw (.unusableOption name)

/-! ### The program -/

/-- Reads the program from a file. -/
def loadFile (read : FileReader) (filename : String) : Launch (List UInt8) :=
  match read filename with
  | .ok rom => do
      record #[⟨.info, .loader, s!"Loaded {rom.length} bytes from {filename}"⟩]
      return rom
  | .error (.refused code reason) => throw (.unreadable (some filename) code reason)
  | .error .badName => throw .badFileName

/-- Reads the program. No channel is open, and only those of 32 bits have numbers at all. -/
def load (read : FileReader) : ProgramSource → Launch (List UInt8)
  | .file name => loadFile read name
  | .channel number =>
      if !Signed.holds 31 number then throw (.unusableOption "filename")
      else if number < 0 then throw .badFileName
      else throw (.unreadable none 9 "Bad file descriptor")

/-- The machine that is booted with a program. -/
def boot (random : RandomSource) (rom : List UInt8) : Launch Machine :=
  match Machine.boot rom (.initial random) with
  | .ok _ m => return m
  | .error (.badAddress _ _) _ => throw (.romTooLarge rom.length)
  | .error f _ => throw (.fault f)

/-! ### The devices -/

/-- What a device or its settings give. -/
def fromDevice {α : Type} : Except HostError α → Launch α
  | .ok a => return a
  | .error e => throw (.device e)

/-- The kind of renderer that a name stands for, and the default one without a name. -/
def rendererKind (name : String) : Launch RendererKind :=
  if name = "" then return .window
  else
    match RendererKind.ofName? name with
    | some kind => return kind
    | none => throw (.unknownRenderer name)

/-- Opens a window. Its palette is read before its width is used. -/
def openWindow (around : Surroundings) (scale : Setting Int) (palette : Setting String) :
    Launch Window := do
  let palette ← fromDevice (Palette.ofText (← value? "palette" palette))
  let scale := (← value? "scale" scale).getD Window.defaultScale
  fromDevice (Window.ofPalette around.windows scale palette)

/-- Opens the renderer at the resolution of the machine. -/
def openRenderer (around : Surroundings) (kind : RendererKind) (scale : Setting Int)
    (palette : Setting String) : Launch Renderer := do
  let renderer ← match kind with
    | .plain => pure (Renderer.plain (.ofScale (scale.getD Display.defaultScale)))
    | .window => Renderer.window <$> openWindow around scale palette
  observe (.opened .renderer)
  fromDevice (renderer.tryResize around.free Geometry.standard.width Geometry.standard.height)

/-- Opens the keyboard that goes with a renderer; an empty keymap stands for the default one. -/
def openKeyboard (kind : RendererKind) (keymap : String) : Launch Keyboard := do
  let keyboardKind := match kind with
    | .plain => KeyboardKind.headless
    | .window => KeyboardKind.desktop
  let m ← fromDevice (Keymap.ofText (if keymap = "" then Keymap.defaultText else keymap))
  observe (.opened .keyboard)
  return .ofKeymap keyboardKind m

/-- Opens the buzzer, which sounds only beside a window, and then needs the mixer. -/
def openBuzzer (around : Surroundings) (kind : RendererKind) (mute : Bool) : Launch Buzzer := do
  let audible := kind = .window ∧ mute = false
  if audible then fromDevice (around.mixer.mapError .noMixer)
  observe (.opened .buzzer)
  return if audible then .sounding else .silent

/-- The desktop beside a renderer. -/
def desktopOf : RendererKind → Option Desktop
  | .plain => none
  | .window => some ⟨[], []⟩

/-! ### From the options to the end -/

/-- Everything up to the run. -/
def prepare (o : Options) (around : Surroundings) : Launch System := do
  say Product.banner
  let live := (← require "debug" o.debug).getD false
  let name := (← require "renderer" o.renderer).getD ""
  let mute := (← require "mute" o.mute).getD false
  let kind ← rendererKind name
  let rom ← load around.read (← value "filename" (← require "filename" o.filename))
  let seed := (← value? "seed" (← require "seed" o.seed)).elim around.entropy Seed.number
  let machine ← boot (.ofSeed seed) rom
  let scale ← require "scale" o.scale
  let palette ← require "palette" o.palette
  let renderer ← openRenderer around kind scale palette
  let keymap := (← valueOrBlank? "keymap" (← require "keymap" o.keymap)).getD ""
  let keyboard ← openKeyboard kind keymap
  let buzzer ← openBuzzer around kind mute
  let rate := (← value? "rate" (← require "rate" o.rate)).getD (.integer Rate.usual)
  match Processor.ofMachine machine live rate around.clock with
  | .ok cpu =>
      return {
        cpu := cpu
        host := {
          renderer := renderer
          keyboard := keyboard
          buzzer := buzzer
          desktop := desktopOf kind
          lastBreakdown := none } }
  | .error f => throw (.fault f)

/-- Closes the devices after the processor has finished. -/
def closeDevices (c : Processor) : Launch Unit := do
  record c.journal
  observe (.closed .buzzer)
  observe (.closed .keyboard)
  observe (.closed .renderer)

/-- Everything after the run: the devices are closed, and a failure of the run is passed on. -/
def conclude (ending : Joint.Ending) (s : System) : Launch Unit := do
  closeDevices s.cpu
  match ending with
  | .quiet => return ()
  | .broken b => throw (.broken b)
  | .failed e => throw (.failed e)

/-- The result of an action of a start, and the transcript it leaves. -/
def outcome : EStateM.Result Failure Transcript Unit → Except Failure Unit × Transcript
  | .ok _ t => (.ok (), t)
  | .error f t => (.error f, t)

/-- A start whose run ends within `fuel` moves of the processor. -/
def run? (o : Options) (around : Surroundings) (fuel : Nat) :
    Option (Except Failure Unit × Transcript) :=
  match prepare o around .empty with
  | .error f t => some (.error f, t)
  | .ok s t => do
      let (ending, s) ← s.run? none fuel
      return outcome (conclude ending s t)

end Startup

end Chip8
