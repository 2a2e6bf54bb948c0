import Chip8.Dispatch

/-!
# The instruction set

The thirty-four instructions of the machine with their words and mnemonics. The name of an
instruction shows its word in hexadecimal with letters for the operands: `x` and `y` are data
registers, `n` is a nibble, `kk` a byte and `nnn` an address.
-/

namespace Chip8

/-- The instructions of the machine. -/
inductive Instruction where
  /-- Switches all pixels off. -/
  | clearScreen
  /-- Returns to behind the call that was made last. -/
  | ret
  /-- Goes on at an address. -/
  | jump
  /-- Goes on at an address, and remembers where it was called. -/
  | call
  /-- Skips an instruction if a register holds a byte. -/
  | skipIfByte
  /-- Skips an instruction unless a register holds a byte. -/
  | skipUnlessByte
  /-- Skips an instruction if two registers are equal. -/
  | skipIfEqual
  /-- Loads a byte. -/
  | loadByte
  /-- Adds a byte without touching the flag. -/
  | addByte
  /-- Copies a register. -/
  | copy
  /-- Combines registers by disjunction. -/
  | or
  /-- Combines registers by conjunction. -/
  | and
  /-- Combines registers by exclusive disjunction. -/
  | xor
  /-- Adds a register; the flag is the carry. -/
  | add
  /-- Subtracts a register; the flag is set unless there was a borrow. -/
  | subtract
  /-- Halves a register into another; the flag is the bit shifted out. -/
  | shiftRight
  /-- Subtracts from a register; the flag is set unless there was a borrow. -/
  | subtractFrom
  /-- Doubles a register into another; the flag is the bit shifted out. -/
  | shiftLeft
  /-- Skips an instruction unless two registers are equal. -/
  | skipUnlessEqual
  /-- Loads the address register. -/
  | loadIndex
  /-- Goes on at an address plus the first register. -/
  | jumpOffset
  /-- Loads the bits of a random number that a byte has. -/
  | random
  /-- Draws a sprite; the flag tells whether a pixel was switched off. -/
  | draw
  /-- Skips an instruction if the key of a register is down. -/
  | skipIfKey
  /-- Skips an instruction unless the key of a register is down. -/
  | skipUnlessKey
  /-- Loads the delay timer. -/
  | loadDelay
  /-- Waits for a key and loads its number. -/
  | awaitKey
  /-- Sets the delay timer. -/
  | setDelay
  /-- Sets the sound timer. -/
  | setSound
  /-- Adds a register to the address register. -/
  | addIndex
  /-- Points the address register to the glyph of a digit. -/
  | pointGlyph
  /-- Stores the three decimal digits of a register. -/
  | storeDigits
  /-- Stores a row of registers. -/
  | storeRegisters
  /-- Loads a row of registers. -/
  | loadRegisters
deriving DecidableEq

namespace Instruction

/-- The instructions in the order of their words. -/
def all : List Instruction :=
  [clearScreen, ret, jump, call, skipIfByte, skipUnlessByte, skipIfEqual, loadByte, addByte, copy,
    or, and, xor, add, subtract, shiftRight, subtractFrom, shiftLeft, skipUnlessEqual, loadIndex,
    jumpOffset, random, draw, skipIfKey, skipUnlessKey, loadDelay, awaitKey, setDelay, setSound,
    addIndex, pointGlyph, storeDigits, storeRegisters, loadRegisters]

/-! ### Parts of mnemonics -/

/-- A register in a mnemonic. -/
def registerPlace (f : Field) : Mnemonic := [.text "V", .field f (.hex 0)]

/-- A number in a mnemonic, with as many digits as its field has nibbles. -/
def numberPlace (f : Field) (width : Nat) : Mnemonic := [.text "0x", .field f (.hex width)]

/-- A verb with its operands, which are separated by commas. -/
def verb (name : String) (operands : List Mnemonic) : Mnemonic :=
  match operands with
  | [] => [.text name]
  | first :: rest =>
      .text name :: .text " " :: first ++ rest.flatMap fun operand => .text ", " :: operand

/-- A verb with a register and a byte. -/
def withByte (name : String) : Mnemonic := verb name [registerPlace .x, numberPlace .kk 2]

/-- A verb with two registers. -/
def withRegisters (name : String) : Mnemonic := verb name [registerPlace .x, registerPlace .y]

/-! ### The entries -/

/-- The name, mask, pattern and mnemonic of an instruction. -/
def layout : Instruction → String × Int × Int × Mnemonic
  | clearScreen => ("00E0", 0xffff, 0x00e0, verb "CLS" [])
  | ret => ("00EE", 0xffff, 0x00ee, verb "RET" [])
  | jump => ("1nnn", 0xf000, 0x1000, verb "JP" [numberPlace .nnn 3])
  | call => ("2nnn", 0xf000, 0x2000, verb "CALL" [numberPlace .nnn 3])
  | skipIfByte => ("3xkk", 0xf000, 0x3000, withByte "SE")
  | skipUnlessByte => ("4xkk", 0xf000, 0x4000, withByte "SNE")
  | skipIfEqual => ("5xy0", 0xf00f, 0x5000, withRegisters "SE")
  | loadByte => ("6xkk", 0xf000, 0x6000, withByte "LD")
  | addByte => ("7xkk", 0xf000, 0x7000, withByte "ADD")
  | copy => ("8xy0", 0xf00f, 0x8000, withRegisters "LD")
  | or => ("8xy1", 0xf00f, 0x8001, withRegisters "OR")
  | and => ("8xy2", 0xf00f, 0x8002, withRegisters "AND")
  | xor => ("8xy3", 0xf00f, 0x8003, withRegisters "XOR")
  | add => ("8xy4", 0xf00f, 0x8004, withRegisters "ADD")
  | subtract => ("8xy5", 0xf00f, 0x8005, withRegisters "SUB")
  | shiftRight => ("8xy6", 0xf00f, 0x8006, withRegisters "SHR")
  | subtractFrom => ("8xy7", 0xf00f, 0x8007, withRegisters "SUBN")
  | shiftLeft => ("8xyE", 0xf00f, 0x800e, withRegisters "SHL")
  | skipUnlessEqual => ("9xy0", 0xf00f, 0x9000, withRegisters "SNE")
  | loadIndex => ("Annn", 0xf000, 0xa000, verb "LD" [[.text "I"], numberPlace .nnn 3])
  | jumpOffset => ("Bnnn", 0xf000, 0xb000, verb "JP" [[.text "V0"], numberPlace .nnn 3])
  | random => ("Cxkk", 0xf000, 0xc000, withByte "RND")
  | draw =>
      ("Dxyn", 0xf000, 0xd000, verb "DRW" [registerPlace .x, registerPlace .y, numberPlace .n 1])
  | skipIfKey => ("Ex9E", 0xf0ff, 0xe09e, verb "SKP" [registerPlace .x])
  | skipUnlessKey => ("ExA1", 0xf0ff, 0xe0a1, verb "SKNP" [registerPlace .x])
  | loadDelay => ("Fx07", 0xf0ff, 0xf007, verb "LD" [registerPlace .x, [.text "DT"]])
  | awaitKey => ("Fx0A", 0xf0ff, 0xf00a, verb "LD" [registerPlace .x, [.text "K"]])
  | setDelay => ("Fx15", 0xf0ff, 0xf015, verb "LD" [[.text "DT"], registerPlace .x])
  | setSound => ("Fx18", 0xf0ff, 0xf018, verb "LD" [[.text "ST"], registerPlace .x])
  | addIndex => ("Fx1E", 0xf0ff, 0xf01e, verb "ADD" [[.text "I"], registerPlace .x])
  | pointGlyph => ("Fx29", 0xf0ff, 0xf029, verb "LD" [[.text "F"], registerPlace .x])
  | storeDigits => ("Fx33", 0xf0ff, 0xf033, verb "LD" [[.text "B"], registerPlace .x])
  | storeRegisters => ("Fx55", 0xf0ff, 0xf055, verb "LD" [[.text "[I]"], registerPlace .x])
  | loadRegisters => ("Fx65", 0xf0ff, 0xf065, verb "LD" [registerPlace .x, [.text "[I]"]])

/-- The entry of an instruction in the table. -/
def entry (i : Instruction) : Entry Instruction :=
  let (name, mask, pattern, mnemonic) := i.layout
  ⟨name, ⟨mask, pattern⟩, mnemonic, i⟩

/-- The name of an instruction. -/
def name (i : Instruction) : String := i.entry.name

/-- The table of the instruction set. -/
def table : Table Instruction :=
  match Table.ofList (all.map entry) with
  | .ok t => t
  | .error _ => Table.empty

/-- No two instructions share a word, so the table has all of them. -/
theorem ofList_entries :
  Table.ofList (all.map entry) = .ok table
  := by
  rfl

example : (table.find? 0xd125).map (·.mnemonic.describe (.ofWord 0xd125)) = some "DRW V1, V2, 0x5"
  := by decide

end Instruction

end Chip8
