import Chip8.Excess
import Chip8.Numeral.Hex

/-!
# Faults

A fault is the cause for which an operation of the machine refuses to go on. Nothing wraps around
or is truncated silently: a value that does not fit, an address out of range and an unknown word
are all faults, and a running program halts at the first one.
-/

namespace Chip8

/-- The banks of registers that are read and written by index. -/
inductive RegisterBank where
  | data
  | key
deriving DecidableEq

/-- The name of a register bank in messages. -/
def RegisterBank.label : RegisterBank → String
  | .data => "Data"
  | .key => "Key"

/-- The causes of failure of the machine's parts. -/
inductive Fault where
  /-- A cell, entry or location refuses a value outside the range of its width. -/
  | tooWide (name : String) (width value : Int)
  /-- A memory has no location at an address. -/
  | badAddress (memory : String) (address : Int)
  /-- A register bank has no register at an index. -/
  | badRegister (bank : RegisterBank) (index : Int)
  /-- A return address is pushed on a full call stack. -/
  | stackOverflow
  /-- A return address is taken from an empty call stack. -/
  | stackUnderflow
  /-- A timer is counted down although it stands at zero. -/
  | timerAtZero (name : String)
  /-- No instruction has the word. -/
  | unknownWord (word : Int)
  /-- A snapshot of the keys has not one state for each key. -/
  | partialSnapshot
  /-- A width is negative. -/
  | negativeWidth
  /-- A value does not fit, and the width it does not fit has too many digits to be written. -/
  | unwritableWidth
  /-- A memory is asked for with a negative number of locations. -/
  | negativeSize
  /-- A memory or a number is asked for which is too large to be stored. -/
  | excessive (e : Excess)
  /-- A value that fits the width of a memory's items does not fit a byte. -/
  | notAByte (value : Nat)
  /-- A display without columns or rows has no pixel to address. -/
  | noPixels
  /-- A rate of ticks is too large for a binary fraction. -/
  | rateTooLarge (rate : Int)
deriving DecidableEq

namespace Fault

/-- The text in which a fault is reported. -/
def message : Fault → String
  | tooWide name width value => s!"{name} cannot hold 0x{Hex.text value} in {width} bit(s)"
  | badAddress memory address => s!"{memory} address 0x{Hex.text address} out of range"
  | badRegister bank index =>
      s!"{bank.label} register index 0x{Hex.text index} out of range"
  | stackOverflow => "Stack overflow"
  | stackUnderflow => "Stack underflow"
  | timerAtZero name => s!"{name} counted down while already at zero"
  | unknownWord word => s!"Opcode 0x{Hex.padded 4 word} is not emulated"
  | partialSnapshot => "Key state snapshots must hold exactly 16 keys"
  | negativeWidth => "negative width"
  | unwritableWidth => "the width has too many digits to be written"
  | negativeSize => "negative size"
  | excessive e => e.message
  | notAByte value => s!"0x{Hex.text value} is not a byte"
  | noPixels => "the display has no pixels"
  | rateTooLarge rate => s!"{rate} ticks per second are too many"

/-- Whether a processor halts for a fault in a run: a cell, a memory, the call stack, a timer, an
instruction or a channel refuses to go on. Any other fault is passed on as it is. -/
def isHalting : Fault → Bool
  | tooWide _ _ _ | badAddress _ _ | badRegister _ _ | stackOverflow | stackUnderflow
  | timerAtZero _ | unknownWord _ | partialSnapshot => true
  | _ => false

end Fault

end Chip8
