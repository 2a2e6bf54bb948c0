import Chip8.Host

/-!
# Schedules

The processor and the host run side by side. Each of them makes its moves one after the other, and
a move touches at most one slot, so what the two do together is given by the order of their moves:
a schedule. The processor runs until it has made its ticks, was asked to stop or breaks down. The
host refreshes until the processor has finished or the user wants to quit; then it asks the
processor to stop, waits for it, switches the buzzer off, shows the last frame, and passes on the
breakdown it learned of.
-/

namespace Chip8

/-- What the processor does next. -/
inductive ProcessorMove where
  /-- It decides whether to make another tick. -/
  | decide
  /-- It executes an instruction. -/
  | execute
  /-- It publishes the display. -/
  | present
  /-- It counts down the timers and switches the buzzer. -/
  | count
  /-- It reads the keys. -/
  | readKeys
  /-- It waits for the next tick. -/
  | wait
  /-- It switches the buzzer off at the end of its run. -/
  | close (breakdown : Option Breakdown)
  /-- It has finished. -/
  | finished (breakdown : Option Breakdown)
deriving DecidableEq

/-- What the host does next. -/
inductive HostMove where
  /-- It goes on refreshing while the processor runs and the user does not want to quit. -/
  | check
  | publishKeys
  | showFrame
  | switchBuzzer
  /-- It asks the processor to stop, because of an error if there was one. -/
  | leave (error : Option HostError)
  /-- It waits until the processor has finished, and switches the buzzer off. -/
  | join (error : Option HostError)
  /-- It shows the last frame. -/
  | showLast
  /-- It has finished, with the error of a device if there was one. -/
  | finished (error : Option HostError)
deriving DecidableEq

/-- Who moves next. -/
inductive Turn where
  | cpu
  | host
deriving DecidableEq

/-- A processor and a host on their way. -/
structure Joint where
  system : System
  /-- The most ticks that the processor makes. -/
  limit : Option Nat
  /-- The number of ticks before the processor started. -/
  before : Nat
  cpuMove : ProcessorMove
  hostMove : HostMove

namespace Joint

/-- A processor and a host that start together. -/
def start (limit : Option Nat) (s : System) : Joint where
  system :=
    { cpu := s.cpu.started
      host := { s.host with renderer := s.host.renderer.retitle Product.name } }
  limit := limit
  before := s.cpu.ticks
  cpuMove := .decide
  hostMove := .check

/-! ### Moves of the processor -/

/-- Whether the processor has made all its ticks. -/
def allTicksMade (j : Joint) : Bool :=
  match j.limit with
  | none => false
  | some n => n ≤ j.system.cpu.ticks - j.before

/-- The move of the processor `a`, after which it does `next` unless it breaks down. -/
def perform {α : Type} (j : Joint) (a : ProcessorAction α) (next : ProcessorMove) : Joint :=
  match a j.system.cpu with
  | .ok _ cpu => { j with system := { j.system with cpu := cpu }, cpuMove := next }
  | .error cause cpu =>
      let breakdown := cpu.breakdownFor cause
      { j with
        system := { j.system with cpu := cpu.reported breakdown }
        cpuMove := .close (some breakdown) }

/-- The counting part of a tick. -/
def count : ProcessorAction Unit := do
  Processor.countDelay
  Processor.serveBuzzer

/-- The next move of the processor. -/
def cpuTurn (j : Joint) : Joint :=
  match j.cpuMove with
  | .decide =>
      if j.system.cpu.stopRequested || j.allTicksMade then { j with cpuMove := .close none }
      else { j with cpuMove := .execute }
  | .execute => j.perform Processor.step .present
  | .present => j.perform Processor.present .count
  | .count => j.perform count .readKeys
  | .readKeys => j.perform Processor.finishTick .wait
  | .wait =>
      match j.system.cpu.wait with
      | .ok _ cpu => { j with system := { j.system with cpu := cpu }, cpuMove := .decide }
      | .error breakdown cpu =>
          { j with
            system := { j.system with cpu := cpu.reported breakdown }
            cpuMove := .close (some breakdown) }
  | .close none =>
      { j with
        system := { j.system with cpu := j.system.cpu.stopped (j.system.cpu.ticks - j.before) }
        cpuMove := .finished none }
  | .close (some breakdown) =>
      { j with
        system :=
          { cpu := j.system.cpu.silence
            host := { j.system.host with lastBreakdown := some breakdown } }
        cpuMove := .finished (some breakdown) }
  | .finished _ => j

/-- Whether the processor has finished. -/
def cpuFinished (j : Joint) : Bool :=
  match j.cpuMove with
  | .finished _ => true
  | _ => false

/-! ### Moves of the host -/

/-- The move of the host `a`, after which it does `next` unless a device fails. -/
def attempt (j : Joint) (a : HostAction Unit) (next : HostMove)
    (failed : HostError → HostMove) : Joint :=
  match a j.system with
  | .ok _ s => { j with system := s, hostMove := next }
  | .error e s => { j with system := s, hostMove := failed e }

/-- Notes that the user wants to quit. -/
def noteQuit (s : System) : System :=
  { s with cpu := s.cpu.note .info .host "Quit requested" }

/-- The next move of the host. -/
def hostTurn (j : Joint) : Joint :=
  match j.hostMove with
  | .check =>
      if j.cpuFinished then { j with hostMove := .leave none }
      else
        match Host.quitAsked j.system with
        | .ok true s => { j with system := noteQuit s, hostMove := .leave none }
        | .ok false s => { j with system := s, hostMove := .publishKeys }
        | .error e s => { j with system := s, hostMove := .leave (some e) }
  | .publishKeys => j.attempt Host.publishKeys .showFrame (.leave ∘ some)
  | .showFrame => j.attempt Host.showFrame .switchBuzzer (.leave ∘ some)
  | .switchBuzzer => j.attempt Host.switchBuzzer .check (.leave ∘ some)
  | .leave error =>
      { j with
        system := { j.system with cpu := j.system.cpu.stop }
        hostMove := .join error }
  | .join error =>
      if j.cpuFinished then
        { j with
          system :=
            { j.system with
              host := { j.system.host with buzzer := j.system.host.buzzer.switch false } }
          hostMove := if error.isSome then .finished error else .showLast }
      else j
  | .showLast => j.attempt Host.showFrame (.finished none) (.finished ∘ some)
  | .finished _ => j

/-- Whether the host has finished. -/
def hostFinished (j : Joint) : Bool :=
  match j.hostMove with
  | .finished _ => true
  | _ => false

/-! ### Schedules -/

/-- The move of whose turn it is. -/
def turn (j : Joint) : Turn → Joint
  | .cpu => j.cpuTurn
  | .host => j.hostTurn

/-- The moves of a schedule. -/
def play (j : Joint) (schedule : List Turn) : Joint :=
  schedule.foldl turn j

/-- Up to `n` moves of the processor, as long as it has not finished. -/
def cpuTurns (j : Joint) : Nat → Joint
  | 0 => j
  | n + 1 => if j.cpuFinished then j else cpuTurns j.cpuTurn n

/-- Up to `n` moves of the host, as long as it has not finished. -/
def hostTurns (j : Joint) : Nat → Joint
  | 0 => j
  | n + 1 => if j.hostFinished then j else hostTurns j.hostTurn n

/-! ### The end of a run -/

/-- How a run beside a host ends. -/
inductive Ending where
  | quiet
  | broken (b : Breakdown)
  | failed (e : HostError)
deriving DecidableEq

/-- How a run ended, once the host has finished. An error of a device hides the breakdown of the
processor. -/
def ending? (j : Joint) : Option Ending :=
  match j.hostMove with
  | .finished (some e) => some (.failed e)
  | .finished none =>
      match j.system.host.lastBreakdown with
      | some b => some (.broken b)
      | none => some .quiet
  | _ => none

/-- How many moves the host makes at most after the processor has finished. -/
def closingTurns : Nat := 10

end Joint

namespace System

/-- A run in which the processor makes its moves before the host, if it finishes within `fuel`
moves. -/
def run? (s : System) (limit : Option Nat) (fuel : Nat) : Option (Joint.Ending × System) := do
  let j := ((Joint.start limit s).cpuTurns fuel).hostTurns Joint.closingTurns
  return (← j.ending?, j.system)

/-- A run in which the host makes its moves first, as many as it can before it has to wait, if the
processor finishes within `fuel` moves afterwards. -/
def runHostFirst? (s : System) (limit : Option Nat) (fuel : Nat) :
    Option (Joint.Ending × System) := do
  let j := (Joint.start limit s).hostTurns Joint.closingTurns
  let j := (j.cpuTurns fuel).hostTurns Joint.closingTurns
  return (← j.ending?, j.system)

end System

end Chip8
