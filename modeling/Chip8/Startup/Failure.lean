import Chip8.Processor.Run
import Chip8.Host.Error
import Chip8.Text.Quoted

/-!
# Failures of a start

The reasons for which the program ends without having been asked to.
-/

namespace Chip8

/-- Why a file cannot be read. -/
inductive ReadError where
  /-- The system refuses it, for a reason with a number. -/
  | refused (code : Nat) (reason : String)
  /-- No file can have such a name. -/
  | badName
deriving DecidableEq

/-- The causes for which a start fails. -/
inductive Failure where
  /-- An option was not given. -/
  | missingOption (name : String)
  /-- An option is used which has no value of its kind. -/
  | unusableOption (name : String)
  /-- There is no renderer of a name. -/
  | unknownRenderer (name : String)
  /-- The file with the program, or the channel without a name, cannot be read. -/
  | unreadable (filename : Option String) (code : Nat) (reason : String)
  /-- No file can have the name that was given, or no channel the number. -/
  | badFileName
  /-- The program has too many bytes for the memory. -/
  | romTooLarge (size : Nat)
  /-- A device could not be opened. -/
  | device (e : HostError)
  /-- A part of the machine could not be set up. -/
  | fault (f : Fault)
  /-- The processor broke down in its run. -/
  | broken (b : Breakdown)
  /-- A device failed in the run. -/
  | failed (e : HostError)
deriving DecidableEq

namespace Failure

/-- The text in which a failure is reported. -/
def message : Failure → String
  | missingOption name => s!"the option {name} is missing"
  | unusableOption name => s!"the option {name} has no value of its kind"
  | unknownRenderer name => s!"Unknown renderer '{name}'"
  | unreadable filename code reason =>
      let place := filename.elim "" fun name => ": " ++ Text.quoted name
      s!"Unable to read ROM: [Errno {code}] {reason}{place}"
  | badFileName => "the name of the file is not allowed"
  | romTooLarge size => s!"ROM is too large to fit in RAM ({size} bytes)"
  | device e | failed e => e.message
  | fault f => f.message
  | broken b => b.message

/-- Whether a failure is one that the user can mend. Others end the program at once. -/
def isReported : Failure → Bool
  | missingOption _ => false
  | unusableOption _ => false
  | badFileName => false
  | fault _ => false
  | broken b => b.isHalt
  | device e | failed e => e.isReported
  | _ => true

end Failure

end Chip8
