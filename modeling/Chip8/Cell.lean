import Chip8.Fault
import Chip8.Numeral.Length
import Chip8.Numeral.Power

/-!
# Cells

A cell is the smallest unit of storage: one register, one timer or one location of a memory. It
has a width in bits and refuses every value that does not fit, so arithmetic that is meant to wrap
around has to reduce its result before it is stored.

A timer is a cell of eight bits which is counted down to zero and stays there.
-/

namespace Chip8

/-- The number stored for `value` in `width` bits, or the fault for which it is refused. A
negative number never shifts down to zero, so it is refused at every width. The fault tells the
width in base ten, as far as it can be written. -/
def fit (name : String) (width value : Int) : Except Fault Nat :=
  if width < 0 then .error .negativeWidth
  else if value >>> width.toNat = 0 then .ok value.toNat
  else if Numeral.isWritable width then .error (.tooWide name width value)
  else .error .unwritableWidth

/-- A cell with a name, which is used in messages, and a width in bits. -/
structure Cell (name : String) (width : Int) where
  value : Nat
deriving DecidableEq

namespace Cell

variable {name : String} {width : Int}

/-- The cell that holds zero. -/
def zero : Cell name width := ⟨0⟩

/-- The cell that holds a given value, if it fits. -/
def ofValue (value : Int) : Except Fault (Cell name width) := do
  return ⟨← fit name width value⟩

/-- The number a cell holds. -/
def read (c : Cell name width) : Nat := c.value

/-- The cell after a value is stored in it. -/
def write (_ : Cell name width) (value : Int) : Except Fault (Cell name width) :=
  ofValue value

/-- The cell after a number, which may be negative, is added to its value. -/
def add (c : Cell name width) (delta : Int) : Except Fault (Cell name width) :=
  c.write (c.value + delta)

/-- The name and the contents of a cell. -/
def text (c : Cell name width) : String :=
  s!"{name}(0x{Hex.text c.value})"

end Cell

/-! ### Calls -/

/-- A call on a cell that changes its value. -/
inductive CellCall where
  /-- Stores a value. -/
  | write (value : Int)
  /-- Adds a number, which may be negative, to the value. -/
  | add (delta : Int)
deriving DecidableEq

/-- An action on a cell. What it stored before it failed stays there. -/
abbrev CellAction (name : String) (width : Int) := EStateM Fault (Cell name width)

namespace Cell

variable {name : String} {width : Int}

/-- Stores a value, if it fits. -/
def store (value : Int) : CellAction name width Unit := do
  let held ← MonadExcept.ofExcept (fit name width value)
  set (⟨held⟩ : Cell name width)

/-- Serves a call. -/
def serve : CellCall → CellAction name width Unit
  | .write value => store value
  | .add delta => do store ((← get).value + delta)

end Cell

/-! ### Timers -/

/-- A timer of eight bits. -/
abbrev Timer (name : String) := Cell name 8

namespace Timer

variable {name : String}

/-- Whether a timer is above zero. -/
def ticking (t : Timer name) : Bool := 0 < t.value

/-- The timer one tick later; a timer at zero must not be counted down. -/
def countDown (t : Timer name) : Except Fault (Timer name) :=
  if t.ticking then Cell.add t (-1) else .error (.timerAtZero name)

end Timer

/-! ### What fits -/

/-- Shifting right by `width` places yields zero exactly for the numbers of `width` bits. -/
theorem shiftRight_eq_zero_iff (value : Int) (width : Nat) :
  value >>> width = 0 ↔ 0 ≤ value ∧ value < (twoPow width : Int)
  := by
  have pos := twoPow_pos width
  rw [shiftRight_eq_div_twoPow, Int.ediv_eq_iff_of_pos (by omega)]
  omega

/-- A number in the range of the width is stored, and every other one is refused. The fault tells
the width if it can be written. -/
theorem fit_eq_ite (name : String) (width : Nat) (value : Int) :
  fit name width value =
    if 0 ≤ value ∧ value < (twoPow width : Int) then .ok value.toNat
    else if Numeral.isWritable width then .error (.tooWide name width value)
    else .error .unwritableWidth
  := by
  have h : ¬((width : Int) < 0) := by omega
  rw [fit, if_neg h, Int.toNat_natCast]
  simp only [shiftRight_eq_zero_iff]

/-- A number in the range of the width is stored as it is. -/
theorem fit_eq_ok {width : Nat} {value : Int} (name : String) (nonneg : 0 ≤ value)
    (small : value < (twoPow width : Int)) :
  fit name width value = .ok value.toNat
  := by
  rw [fit_eq_ite, if_pos ⟨nonneg, small⟩]

/-- A number outside the range of a width that can be written is refused as too wide. -/
theorem fit_eq_error {width : Nat} {value : Int} (name : String)
    (writable : Numeral.isWritable width = true)
    (outside : value < 0 ∨ (twoPow width : Int) ≤ value) :
  fit name width value = .error (.tooWide name width value)
  := by
  rw [fit_eq_ite, if_neg (by omega), if_pos writable]

end Chip8
