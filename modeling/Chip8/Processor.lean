import Chip8.Dump
import Chip8.Execution
import Chip8.Journal
import Chip8.Channel
import Chip8.Processor.Clock
import Chip8.Processor.Rate

/-!
# The processor

The processor runs the program of a machine in ticks. A tick executes one instruction and then
serves the peripherals, in this order: it publishes the display if a redraw is scheduled, counts
down the delay timer, counts down the sound timer with the buzzer on, or switches the buzzer off,
and reads the keys. A fault can only arise while the instruction is fetched and executed; then
the rest of the tick is left out. After a tick the processor waits until its time slot is over, if
there is one.
-/

namespace Chip8

/-- What the processor is executing. -/
structure Progress where
  /-- Where the instruction was fetched. -/
  pc : Nat
  /-- The word, once it was fetched. -/
  word : Option Nat
  /-- The instruction, once it was found. -/
  instruction : Option Instruction
deriving DecidableEq

/-- A processor with its machine and its channels. -/
structure Processor where
  machine : Machine
  keyChannel : KeyChannel
  buzzerChannel : BuzzerChannel
  /-- Whether every instruction is noted before it is executed. -/
  live : Bool
  /-- The time between ticks in seconds, unless ticks follow each other at once. -/
  interval : Option Floating
  clock : Clock
  /-- Whether the processor was asked to stop. -/
  stopRequested : Bool
  progress : Progress
  /-- The number of completed ticks. -/
  ticks : Nat
  journal : Array Note

/-- An action of the processor. -/
abbrev ProcessorAction := EStateM Fault Processor

namespace Processor

/-- The processor of a machine before its first tick. -/
def ofMachine (machine : Machine) (live : Bool) (rate : Rate) (clock : Clock) :
    Except Fault Processor := do
  return {
    machine := machine
    keyChannel := .empty
    buzzerChannel := .initial
    live := live
    interval := ← rate.interval
    clock := clock
    stopRequested := false
    progress := ⟨0, none, none⟩
    ticks := 0
    journal := #[] }

/-- The processor after it took a note. -/
def note (c : Processor) (level : Level) (component : Component) (message : String) : Processor :=
  { c with journal := c.journal.push ⟨level, component, message⟩ }

/-- The processor after it was asked to stop. -/
def stop (c : Processor) : Processor := { c with stopRequested := true }

/-- The processor with the buzzer switched off. -/
def silence (c : Processor) : Processor := { c with buzzerChannel := c.buzzerChannel.stop }

/-- Whether the program waits for a key. -/
def isWaiting (c : Processor) : Bool := c.machine.awaiting.isSome

/-- An action on the processor's machine. -/
def onMachine {α : Type} (a : Action α) : ProcessorAction α := fun c =>
  match a c.machine with
  | .ok x m => .ok x { c with machine := m }
  | .error e m => .error e { c with machine := m }

/-! ### The parts of a tick -/

/-- Notes the state of the machine and the instruction which is about to be executed, if the
processor is live. -/
def noteLive (word : Nat) (e : Entry Instruction) : ProcessorAction Unit :=
  modify fun c =>
    if c.live then
      c.note .debug .dump (Dump.line c.machine (some word) (e.mnemonic.describe (.ofWord word)))
    else c

/-- Finds the instruction that has a word. -/
def lookup (word : Nat) : ProcessorAction (Entry Instruction) := fun c =>
  match Instruction.table.lookup word with
  | .ok e => .ok e c
  | .error e => .error e c

/-- Fetches a word, finds its instruction and executes it. -/
def step : ProcessorAction Unit := do
  modify fun c => { c with progress := ⟨c.machine.registers.pc.value, none, none⟩ }
  let word ← onMachine Machine.fetch
  modify fun c => { c with progress := { c.progress with word := some word } }
  let e ← lookup word
  modify fun c => { c with progress := { c.progress with instruction := some e.meaning } }
  noteLive word e
  onMachine (Action.execute e.meaning (.ofWord word))

/-- Publishes the display if a redraw is scheduled, and tells whether it was. -/
def present : ProcessorAction Bool :=
  onMachine <| Action.exchange fun m => do
    let (drawn, screen) ← m.screen.draw
    return (drawn, { m with screen := screen })

/-- Counts down the delay timer unless it stands at zero. -/
def countDelay : ProcessorAction Unit :=
  onMachine <| Action.change fun m =>
    if m.delay.ticking then do return { m with delay := ← Timer.countDown m.delay }
    else return m

/-- Keeps the buzzer on while the sound timer runs, and counts the timer down. -/
def serveBuzzer : ProcessorAction Unit := do
  if (← get).machine.sound.ticking then
    modify fun c => { c with buzzerChannel := c.buzzerChannel.play }
    onMachine <| Action.change fun m => do
      return { m with sound := ← Timer.countDown m.sound }
  else
    modify silence

/-- Takes the newest snapshot of the keys, if there is one. -/
def readKeys (c : Processor) : Processor :=
  let (keyChannel, registers) := c.keyChannel.update c.machine.registers
  { c with keyChannel := keyChannel, machine := { c.machine with registers := registers } }

/-- Takes the newest keys and completes the tick. -/
def finishTick : ProcessorAction Unit :=
  modify fun c => { c.readKeys with ticks := c.ticks + 1 }

/-- One tick. -/
def tick : ProcessorAction Unit := do
  step
  let _ ← present
  countDelay
  serveBuzzer
  finishTick

/-! ### Between ticks -/

/-- Whether what the last tick left of its time slot can be waited for. -/
def canWait (c : Processor) : Bool := c.interval.all (c.clock.canWait c.ticks)

end Processor

end Chip8
