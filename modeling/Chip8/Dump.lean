import Chip8.Machine

/-!
# State dumps

The state of a machine in one line: the data registers from the highest down, the address
register, the timers, the program counter, the word and the instruction. A full dump adds the
entries of the call stack, oldest first, and the register that waits for a key.
-/

namespace Chip8.Dump

/-- The data registers, highest first, two digits for each. -/
def registers (m : Machine) : String :=
  String.join (m.registers.values.reverse.map fun (v : Nat) => Hex.padded 2 v)

/-- The word, which is not known before it was fetched. -/
def word : Option Int → String
  | none => "----"
  | some w => "0x" ++ Hex.padded 4 w

/-- The line that describes a machine, a word and an instruction. -/
def line (m : Machine) (opcode : Option Int) (instruction : String) : String :=
  String.join
    ["V: 0x", registers m,
      " I: 0x", Hex.padded 3 m.registers.i.value,
      " DT: 0x", Hex.padded 2 m.delay.value,
      " ST: 0x", Hex.padded 2 m.sound.value,
      " PC: 0x", Hex.padded 3 m.registers.pc.value,
      " OP: ", word opcode,
      " IN: ", instruction]

/-- The line of the call stack. -/
def stack (entries : List Nat) : String :=
  "\nStack:" ++
    if entries.isEmpty then " (Empty)"
    else String.join (entries.map fun (entry : Nat) => " 0x" ++ Hex.padded 3 entry)

/-- The line of the register that waits for a key, if any does. -/
def waiting : Option (Fin 16) → String
  | none => ""
  | some x => "\nWaiting for keypress into V" ++ Hex.text x.val

/-- The full dump. -/
def full (m : Machine) (opcode : Option Int) (instruction : String) : String :=
  line m opcode instruction ++ stack m.stack.entries ++ waiting m.awaiting

end Chip8.Dump
