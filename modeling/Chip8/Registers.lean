import Chip8.Cell

/-!
# Registers

A machine has sixteen data registers of eight bits, the last of which doubles as the flag, the
program counter of sixteen bits, the address register of twelve bits, and for each of the sixteen
keys a register of one bit which tells whether the key is held down.
-/

namespace Chip8

/-- The address at which programs are loaded and started. -/
def programStart : Nat := 0x200

/-- A register file. -/
structure Registers where
  /-- The data registers. -/
  data : Vector Nat 16
  /-- The program counter. -/
  pc : Cell "PC" 16
  /-- The address register. -/
  i : Cell "I" 12
  /-- The states of the keys. -/
  keys : Vector Bool 16
deriving DecidableEq

namespace Registers

/-- The register file of a machine that starts. -/
def initial : Registers where
  data := Vector.replicate 16 0
  pc := ⟨programStart⟩
  i := Cell.zero
  keys := Vector.replicate 16 false

/-- The index of the first data register. -/
def first : Fin 16 := ⟨0, by decide⟩

/-- The index of the flag register. -/
def flag : Fin 16 := ⟨15, by decide⟩

/-- The name of a data register in messages. -/
def dataName (x : Fin 16) : String := s!"V{Hex.text x.val}"

/-- The name of a key register in messages. -/
def keyName (k : Fin 16) : String := s!"K{Hex.text k.val}"

/-- The index of a register of a bank. -/
def index (bank : RegisterBank) (i : Int) : Except Fault (Fin 16) :=
  if h : 0 ≤ i ∧ i < 16 then .ok ⟨i.toNat, by omega⟩ else .error (.badRegister bank i)

/-! ### Data registers -/

/-- The contents of a data register. -/
def get (r : Registers) (x : Fin 16) : Nat := r.data.get x

/-- The register file with a value stored in a data register. -/
def set (r : Registers) (x : Fin 16) (value : Int) : Except Fault Registers := do
  return { r with data := r.data.set x (← fit (dataName x) 8 value) }

/-- The contents of the data register of an index. -/
def read (r : Registers) (i : Int) : Except Fault Nat := do
  return r.get (← index .data i)

/-- The register file with a value stored in the data register of an index. -/
def write (r : Registers) (i value : Int) : Except Fault Registers := do
  r.set (← index .data i) value

/-- The contents of the data registers. -/
def values (r : Registers) : List Nat := r.data.toList

/-! ### Program counter and address register -/

/-- The register file with another program counter. -/
def writePc (r : Registers) (value : Int) : Except Fault Registers := do
  return { r with pc := ← r.pc.write value }

/-- The register file with a number added to the program counter. -/
def addPc (r : Registers) (delta : Int) : Except Fault Registers := do
  return { r with pc := ← r.pc.add delta }

/-- The register file with another address register. -/
def writeI (r : Registers) (value : Int) : Except Fault Registers := do
  return { r with i := ← r.i.write value }

/-- The register file with a number added to the address register. -/
def addI (r : Registers) (delta : Int) : Except Fault Registers := do
  return { r with i := ← r.i.add delta }

/-! ### Keys -/

/-- Whether the key of an index is held down. -/
def keyState (r : Registers) (i : Int) : Except Fault Bool := do
  return r.keys.get (← index .key i)

/-- The register file with another state of the key of an index. -/
def setKey (r : Registers) (i : Int) (down : Bool) : Except Fault Registers := do
  let k ← index .key i
  return { r with keys := r.keys.set k down }

/-- The lowest key that is held down. -/
def pressedKey (r : Registers) : Option (Fin 16) :=
  (List.finRange 16).find? fun k => r.keys.get k

end Registers

end Chip8
