import Chip8.Processor
import Chip8.Product

/-!
# Runs

A run repeats ticks until it has made as many as it is allowed, a stop is requested, or a tick
fails. A failing tick halts the processor: the report describes the state which the tick left and
says in its last line what failed where. After each tick the next one is waited for, and a wait that
is too long ends the run as well, but without a report. At the end of every run the buzzer is
switched off.
-/

namespace Chip8

/-- Why and with which report a processor halted. -/
structure Halt where
  cause : Fault
  report : String
deriving DecidableEq

/-- What a run ends with that goes wrong. -/
inductive Breakdown where
  /-- The processor halts. -/
  | halt (h : Halt)
  /-- A fault for which no processor halts is passed on. -/
  | fault (f : Fault)
  /-- The next tick is further away than can be waited for. -/
  | endlessWait
deriving DecidableEq

namespace Breakdown

/-- The text in which a breakdown is told. -/
def message : Breakdown → String
  | halt h => h.report
  | fault f => f.message
  | endlessWait => "the next tick is too far away"

/-- Whether a breakdown is a halt. -/
def isHalt : Breakdown → Bool
  | halt _ => true
  | fault _ | endlessWait => false

end Breakdown

/-- An action of the processor that may break down. -/
abbrev RunAction := EStateM Breakdown Processor

namespace Processor

/-! ### The report of a halt -/

/-- What the processor was doing. -/
def activity (p : Progress) : String :=
  match p.instruction with
  | none => "Fetch"
  | some i => "Instruction " ++ i.name

/-- The last line of a report. -/
def reason (p : Progress) : Fault → String
  | .unknownWord word =>
      s!"Opcode 0x{Hex.padded 4 word} at address 0x{Hex.padded 3 p.pc} is not emulated."
  | cause => s!"{activity p} at address 0x{Hex.padded 3 p.pc} failed: {cause.message}"

/-- The name of the instruction in a report, which may not be known. -/
def instructionLabel (p : Progress) : String :=
  match p.instruction with
  | none => "???"
  | some i => i.name

/-- The halt of a processor for a fault that its last tick ended with. -/
def haltFor (c : Processor) (cause : Fault) : Halt where
  cause := cause
  report := String.join
    ["Emulation halted.\n\n", Product.intro, "Debug info:\n",
      Dump.full c.machine (c.progress.word.map fun w => (w : Int)) (instructionLabel c.progress),
      "\n\n", reason c.progress cause]

/-- The breakdown of a processor for a fault. -/
def breakdownFor (c : Processor) (cause : Fault) : Breakdown :=
  if cause.isHalting then .halt (c.haltFor cause) else .fault cause

/-- The processor after it noted a breakdown, of which only a halt is noted. -/
def reported (c : Processor) : Breakdown → Processor
  | .halt h => c.note .error .processor h.report
  | .fault _ | .endlessWait => c

/-! ### Running -/

/-- Waits until the time slot of the last tick is over. A wait ends at once if a stop is requested,
and is refused if it is too long. -/
def wait : RunAction Unit := fun c =>
  if c.stopRequested || c.canWait then .ok () c else .error .endlessWait c

/-- A tick and the wait for the next one. -/
def lap : RunAction Unit := fun c =>
  match c.tick with
  | .ok _ d => wait d
  | .error cause d => .error (d.breakdownFor cause) d

/-- Makes at most the given number of ticks, and none once a stop is requested. -/
def tickUpTo : Nat → RunAction Unit
  | 0 => return ()
  | n + 1 => do
      if (← get).stopRequested then return ()
      lap
      tickUpTo n

/-- The processor with the start of a run noted. -/
def started (c : Processor) : Processor :=
  c.note .info .processor s!"Starting emulation at 0x{Hex.padded 3 c.machine.registers.pc.value}"

/-- The processor after a run that made `made` ticks and did not fail. -/
def stopped (c : Processor) (made : Nat) : Processor :=
  c.silence.note .info .processor s!"Emulation stopped after {made} ticks"

/-- The processor after a run that broke down. -/
def broken (c : Processor) (b : Breakdown) : Processor := (c.reported b).silence

/-- The end of a run which began after `before` ticks. -/
def conclude (before : Nat) :
    EStateM.Result Breakdown Processor Unit → Except Breakdown Unit × Processor
  | .ok _ c => (.ok (), c.stopped (c.ticks - before))
  | .error b c => (.error b, c.broken b)

/-- A run of at most `limit` ticks. -/
def run (limit : Nat) (c : Processor) : Except Breakdown Unit × Processor :=
  conclude c.ticks (tickUpTo limit c.started)

/-- Whether a run that makes ticks without a limit has ended. -/
def ended : EStateM.Result Breakdown Processor Unit → Bool
  | .ok _ c => c.stopRequested
  | .error _ _ => true

/-- A run without a limit, if it ends within `fuel` ticks. -/
def runToEnd? (fuel : Nat) (c : Processor) : Option (Except Breakdown Unit × Processor) :=
  let result := tickUpTo fuel c.started
  if ended result then some (conclude c.ticks result) else none

end Processor

end Chip8
