import Chip8.Execution
import Chip8.Proofs.Memory

/-!
# Outcomes of actions

The parts of an instruction are actions of few kinds: they read a register, store a value, move
the program counter or access the memory. Each of them is given by an equation, which tells the
machine it leaves when what it stores is in range, and the fault when it is not. An instruction is
run by such equations one after the other (`bind_of_ok`, `bind_of_error`).
-/

namespace Chip8

/-! ### Sequences -/

section

variable {ε σ α β : Type}

/-- After an action that succeeds, the next one goes on with its result. -/
theorem bind_of_ok {a : EStateM ε σ α} {s s' : σ} {x : α} (h : a s = .ok x s')
    (f : α → EStateM ε σ β) :
  (a >>= f) s = f x s'
  := by
  show (match a s with | .ok x s' => f x s' | .error e s' => .error e s') = f x s'
  rw [h]

/-- After an action that fails, nothing more is done. -/
theorem bind_of_error {a : EStateM ε σ α} {s s' : σ} {e : ε} (h : a s = .error e s')
    (f : α → EStateM ε σ β) :
  (a >>= f) s = .error e s'
  := by
  show (match a s with | .ok x s' => f x s' | .error e s' => .error e s') = .error e s'
  rw [h]

theorem get_apply (s : σ) :
  (get : EStateM ε σ σ) s = .ok s s
  := rfl

theorem modify_apply (f : σ → σ) (s : σ) :
  (modify f : EStateM ε σ Unit) s = .ok () (f s)
  := rfl

end

/-! ### Machines that differ in one part -/

namespace Machine

/-- The machine with another number in a data register. -/
def withData (m : Machine) (x : Fin 16) (n : Nat) : Machine :=
  { m with registers := { m.registers with data := m.registers.data.setIfInBounds x.val n } }

theorem get_withData (m : Machine) (x y : Fin 16) (n : Nat) :
  (m.withData x n).registers.get y = if y = x then n else m.registers.get y
  := by
  show (m.registers.data.setIfInBounds x.val n)[y.val] =
    if y = x then n else m.registers.data[y.val]
  rw [Vector.getElem_setIfInBounds]
  by_cases same : y = x
  · rw [if_pos same, if_pos (congrArg Fin.val same.symm)]
  · have h : ¬(x.val = y.val) := fun e => same (Fin.ext e.symm)
    rw [if_neg same, if_neg h]

theorem withData_withData (m : Machine) (x : Fin 16) (a b : Nat) :
  (m.withData x a).withData x b = m.withData x b
  := by
  simp only [withData, Vector.setIfInBounds_setIfInBounds]

/-- The machine with another program counter. -/
def withPc (m : Machine) (n : Nat) : Machine :=
  { m with registers := { m.registers with pc := ⟨n⟩ } }

/-- The machine with another address register. -/
def withIndex (m : Machine) (n : Nat) : Machine :=
  { m with registers := { m.registers with i := ⟨n⟩ } }

/-- The machine with another program memory. -/
def withRam (m : Machine) (ram : Memory .ram) : Machine := { m with ram := ram }

/-- The machine with other pixels. -/
def withVram (m : Machine) (vram : Memory Geometry.standard.bank) : Machine :=
  { m with screen := { m.screen with vram := vram } }

/-- The machine with the program counter a number of bytes further. -/
def forward (m : Machine) (n : Nat) : Machine := m.withPc (m.registers.pc.value + n)

end Machine

/-- Whether the key of a number is held down; there are no keys beyond the sixteen. -/
def Registers.holds (r : Registers) (key : Nat) : Bool := r.keys[key]?.getD false

namespace Action

/-! ### Changes that the machine may refuse -/

section

variable {m d : Machine} {e : Fault}

theorem change_eq_ok {f : Machine → Except Fault Machine} (h : f m = .ok d) :
  change f m = .ok () d
  := by
  rw [change, h]

theorem change_eq_error {f : Machine → Except Fault Machine} (h : f m = .error e) :
  change f m = .error e m
  := by
  rw [change, h]

theorem exchange_eq_ok {α : Type} {f : Machine → Except Fault (α × Machine)} {x : α}
    (h : f m = .ok (x, d)) :
  exchange f m = .ok x d
  := by
  rw [exchange, h]

theorem exchange_eq_error {α : Type} {f : Machine → Except Fault (α × Machine)}
    (h : f m = .error e) :
  exchange f m = .error e m
  := by
  rw [exchange, h]

end

/-! ### Numbers that fit -/

theorem fit_of_lt {n width : Nat} (name : String) (small : n < twoPow width) :
  fit name width n = .ok n
  := fit_eq_ok name (by omega) (by omega)

/-- A number which is too large for its width is refused, if the width can be written. -/
theorem fit_of_le {n width : Nat} (name : String) (writable : Numeral.isWritable width = true)
    (large : twoPow width ≤ n) :
  fit name width n = .error (.tooWide name width n)
  := by
  apply fit_eq_error name writable
  right
  omega

section

variable {name : String} {width n : Nat} (c : Cell name width)

theorem write_eq_ok (small : n < twoPow width) :
  c.write n = .ok ⟨n⟩
  := by
  rw [Cell.write, Cell.ofValue, fit_of_lt name small]
  rfl

theorem add_eq_ok (near : c.value + n < twoPow width) :
  c.add n = .ok ⟨c.value + n⟩
  := by
  rw [Cell.add, ← Int.natCast_add]
  apply write_eq_ok c near

theorem add_eq_error (writable : Numeral.isWritable width = true)
    (far : twoPow width ≤ c.value + n) :
  c.add n = .error (.tooWide name width (c.value + n : Nat))
  := by
  rw [Cell.add, ← Int.natCast_add, Cell.write, Cell.ofValue, fit_of_le name writable far]
  rfl

end

/-! ### Data registers -/

theorem register_apply (x : Fin 16) (m : Machine) :
  register x m = .ok (m.registers.get x) m
  := rfl

theorem setRegister_eq_ok (x : Fin 16) (m : Machine) {n : Nat} (small : n < 256) :
  setRegister x n m = .ok () (m.withData x n)
  := by
  have fits : fit (Registers.dataName x) 8 n = .ok n := @fit_of_lt n 8 _ small
  have same : m.registers.data.set x.val n x.isLt = m.registers.data.setIfInBounds x.val n := by
    apply Vector.ext
    intro k _
    rw [Vector.getElem_set, Vector.getElem_setIfInBounds]
  rw [setRegister, change, Registers.set, fits, Machine.withData, ← same]
  rfl

/-- The number of a flag is one if its condition holds, and zero otherwise. -/
theorem toNat_eq_ite {on : Bool} {p : Prop} [Decidable p] (h : on = true ↔ p) :
  on.toNat = if p then 1 else 0
  := by
  cases on with
  | true => exact (if_pos (h.mp rfl)).symm
  | false => exact (if_neg (fun holds => Bool.false_ne_true (h.mpr holds))).symm

theorem setFlag_eq_ok (on : Bool) (m : Machine) :
  setFlag on m = .ok () (m.withData Registers.flag on.toNat)
  := by
  cases on with
  | false => apply setRegister_eq_ok (n := 0) Registers.flag m (by omega)
  | true => apply setRegister_eq_ok (n := 1) Registers.flag m (by omega)

/-- The flag is stored after the result, also in the same register. -/
theorem setWithFlag_eq_ok (x : Fin 16) (on : Bool) (m : Machine) {n : Nat} (small : n < 256) :
  setWithFlag x n on m = .ok () ((m.withData x n).withData Registers.flag on.toNat)
  := by
  rw [setWithFlag, bind_of_ok (setRegister_eq_ok x m small)]
  apply setFlag_eq_ok

/-! ### The program counter -/

theorem programCounter_apply (m : Machine) :
  programCounter m = .ok m.registers.pc.value m
  := rfl

theorem goto_eq_ok (m : Machine) {n : Nat} (small : n < 0x10000) :
  goto n m = .ok () (m.withPc n)
  := by
  have written : m.registers.pc.write n = .ok ⟨n⟩ := @write_eq_ok _ 16 n _ small
  rw [goto, change, Registers.writePc, written]
  rfl

theorem advance_eq_ok (m : Machine) {n : Nat} (near : m.registers.pc.value + n < 0x10000) :
  advance n m = .ok () (m.forward n)
  := by
  have added : m.registers.pc.add n = .ok ⟨m.registers.pc.value + n⟩ :=
    @add_eq_ok _ 16 n m.registers.pc near
  rw [advance, change, Registers.addPc, added]
  rfl

theorem next_eq_ok (m : Machine) (near : m.registers.pc.value + 2 < 0x10000) :
  next m = .ok () (m.forward 2)
  := advance_eq_ok (n := 2) m near

theorem skipIf_eq_ok (condition : Bool) (m : Machine) (near : m.registers.pc.value + 4 < 0x10000) :
  skipIf condition m = .ok () (m.forward (if condition then 4 else 2))
  := by
  cases condition with
  | false => apply next_eq_ok m (by omega)
  | true => apply advance_eq_ok (n := 4) m near

/-! ### The address register -/

theorem index_apply (m : Machine) :
  index m = .ok m.registers.i.value m
  := rfl

theorem setIndex_eq_ok (m : Machine) {n : Nat} (small : n < 0x1000) :
  setIndex n m = .ok () (m.withIndex n)
  := by
  have written : m.registers.i.write n = .ok ⟨n⟩ := @write_eq_ok _ 12 n _ small
  rw [setIndex, change, Registers.writeI, written]
  rfl

theorem addIndex_eq_ok (m : Machine) {n : Nat} (near : m.registers.i.value + n < 0x1000) :
  addIndex n m = .ok () (m.withIndex (m.registers.i.value + n))
  := by
  have added : m.registers.i.add n = .ok ⟨m.registers.i.value + n⟩ :=
    @add_eq_ok _ 12 n m.registers.i near
  rw [addIndex, change, Registers.addI, added]
  rfl

/-- The address register does not leave the address space. -/
theorem addIndex_eq_error (m : Machine) {n : Nat} (far : 0x1000 ≤ m.registers.i.value + n) :
  addIndex n m = .error (.tooWide "I" 12 (m.registers.i.value + n : Nat)) m
  := by
  have writable : Numeral.isWritable (12 : Nat) = true :=
    @Numeral.isWritable_of_lt 12 2 (by decide) (by decide)
  have refused : m.registers.i.add n = .error (.tooWide "I" 12 (m.registers.i.value + n : Nat)) :=
    @add_eq_error _ 12 n m.registers.i writable far
  rw [addIndex, change, Registers.addI, refused]
  rfl

/-! ### The memory -/

theorem byteAt_eq_ok (m : Machine) {a : Nat} (inside : a < 0x1000) :
  byteAt a m = .ok (m.ram.get a) m
  := by
  rw [byteAt, ask, m.ram.read_one (by decide) inside]

theorem byteAt_eq_error (m : Machine) {a : Nat} (outside : 0x1000 ≤ a) :
  byteAt a m = .error (.badAddress "RAM" a) m
  := by
  rw [byteAt, ask, m.ram.read_one_outside outside]
  rfl

theorem setByteAt_eq_ok (m : Machine) {a n : Nat} (inside : a < 0x1000) (small : n < 256) :
  setByteAt a n m = .ok () (m.withRam (m.ram.set a n))
  := by
  have stored : m.ram.write a n = .ok (m.ram.set a n) :=
    @Memory.write_eq_ok _ m.ram a n 8 rfl inside small small
  rw [setByteAt, change, stored]
  rfl

theorem setByteAt_eq_error (m : Machine) {a : Nat} (n : Int) (outside : 0x1000 ≤ a) :
  setByteAt a n m = .error (.badAddress "RAM" a) m
  := by
  rw [setByteAt, change, m.ram.write_outside n outside]
  rfl

/-! ### Keys -/

theorem keyDown_eq_ok (m : Machine) {key : Nat} (small : key < 16) :
  keyDown key m = .ok (m.registers.holds key) m
  := by
  have h : 0 ≤ (key : Int) ∧ (key : Int) < 16 := by omega
  rw [keyDown, ask, Registers.keyState, Registers.index, dif_pos h, Registers.holds,
    Vector.getElem?_eq_getElem small]
  rfl

theorem keyDown_eq_error (m : Machine) {key : Nat} (large : 16 ≤ key) :
  keyDown key m = .error (.badRegister .key key) m
  := by
  have h : ¬(0 ≤ (key : Int) ∧ (key : Int) < 16) := by omega
  rw [keyDown, ask, Registers.keyState, Registers.index, dif_neg h]
  rfl

end Action

end Chip8
