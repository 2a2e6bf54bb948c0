import Chip8.Command.Session

/-!
# The program

The command line is read, the file is loaded, and the machine runs in real time: after each tick
the host makes one round, the notes are written, and the program sleeps until the next tick is
due.
-/

namespace Chip8.Main

open Command

/-- The first line of help and of a refusal. -/
def usage : String := "usage: chip8 [switches] filename"

/-- The text of help. -/
def help : String :=
  let line := fun (s : Switch) =>
    "  " ++ commaSeparated s.names ++ if s.takesValue then " VALUE" else ""
  "\n".intercalate ([usage, "", "switches:"] ++ Switch.all.map line)

/-- The number and the wording of the reason for which the system refuses a file. -/
def readError : IO.Error → ReadError
  | .noFileOrDirectory .. => .refused 2 "No such file or directory"
  | .permissionDenied .. => .refused 13 "Permission denied"
  | .inappropriateType .. => .refused 21 "Is a directory"
  | e => .refused 5 (toString e)

/-- Reads a file. -/
def readFile (name : String) : IO (Except ReadError (List UInt8)) := do
  if name.contains '\x00' then return .error .badName
  try
    return .ok (← IO.FS.readBinFile name).toList
  catch e => return .error (readError e)

/-- Writes notes to the terminal. -/
def writeNotes (notes : Array Note) : IO Unit := do
  let terminal ← IO.getStderr
  for n in notes do
    terminal.putStr n.line

/-- The time between ticks in milliseconds. -/
def pause (interval : Option Floating) : UInt32 :=
  match interval with
  | some (.finite _ t) => (t.fraction.1 * 1000 / t.fraction.2).toUInt32
  | _ => 0

/-- The number of moves of the processor in a tick, and of the host in a refresh. -/
def round : Nat × Nat := (6, 4)

/-- Runs a processor under a host until both have finished. -/
partial def play (j : Joint) : IO (Joint.Ending × System) := do
  let j := (j.cpuTurns round.1).hostTurns round.2
  writeNotes j.system.cpu.journal
  let j := { j with system.cpu.journal := #[] }
  match j.ending? with
  | some ending => return (ending, j.system)
  | none => do
      if !j.cpuFinished then IO.sleep (pause j.system.cpu.interval)
      play j

/-- Starts the program with arguments that were accepted. -/
def start (a : Arguments) : IO (Except Failure Unit) := do
  let file ← readFile a.filename
  let entropy ← IO.rand 0 0xffffffff
  match Startup.prepare a.options (.willing (fun _ => file) entropy) .empty with
  | .error f t => do
      t.output.forM (IO.println ·)
      writeNotes t.journal
      return .error f
  | .ok s t => do
      t.output.forM (IO.println ·)
      writeNotes t.journal
      let (ending, s) ← play (.start none s)
      return (Startup.outcome (Startup.conclude ending s .empty)).1

/-- The exit of a session. -/
def session (arguments : List String) : IO Exit :=
  match Arguments.read arguments with
  | .help => return .help
  | .refused r => return .refused r
  | .accepted a => do return exitOf (← start a)

end Chip8.Main

open Chip8 Chip8.Main in
/-- The command line. -/
def main (arguments : List String) : IO UInt32 := do
  match ← session arguments with
  | .success => return 0
  | .help => do
      IO.println help
      return 0
  | .refused r => do
      IO.eprintln s!"{usage}\nchip8: error: {r.message}"
      return 2
  | .failed message => do
      IO.eprintln message
      return 1
  | .crashed f => do
      IO.eprintln f.message
      return 1
