import Chip8.Proofs.Footprint

/-!
# Arithmetic on registers

The result of an instruction that sets the flag fits a byte, and together with the flag it loses
nothing of the operands: the flag stands for the 256 which were carried or borrowed, or for the bit
that was shifted out (`Instruction.Balances`). The flag is stored after the result, so it prevails
if both go to the same register. The other instructions that combine registers leave the flag
alone, unless it is their register.
-/

namespace Chip8

namespace Instruction

/-- The instructions that set the flag besides a result. -/
def flagged : List Instruction := [.add, .subtract, .shiftRight, .subtractFrom, .shiftLeft]

/-- How the result and the flag of an instruction make up for its operands. -/
def Balances (i : Instruction) (a b result flag : Nat) : Prop :=
  match i with
  | .add => 256 * flag + result = a + b
  | .subtract => result + b = a + 256 * (1 - flag)
  | .shiftRight => 2 * result + flag = b
  | .subtractFrom => result + a = b + 256 * (1 - flag)
  | .shiftLeft => 256 * flag + result = 2 * b
  | _ => False

/-- What an instruction that does not set the flag makes of its operands. -/
def combined? (i : Instruction) (a b kk : Nat) : Option Nat :=
  match i with
  | .addByte => some ((a + kk) % 256)
  | .copy => some b
  | .or => some (a ||| b)
  | .and => some (a &&& b)
  | .xor => some (a ^^^ b)
  | _ => none

end Instruction

namespace Machine

/-! ### Results and flags -/

/-- A number in a register and then one in the flag register are what these registers hold. -/
theorem get_assignWithFlag_self (m : Machine) (x : Fin 16) (n : Nat) (on : Bool) :
  (x ≠ Registers.flag → (m.assignWithFlag x n on).registers.get x = n) ∧
    (m.assignWithFlag x n on).registers.get Registers.flag = on.toNat
  := by
  have last := (m.withData x n).get_withData Registers.flag
  constructor
  · intro other
    apply Eq.trans (last x on.toNat)
    rw [if_neg other, get_withData, if_pos rfl]
  · apply (last Registers.flag on.toNat).trans (if_pos rfl)

/-- An instruction that sets the flag stores a result and a flag that make up for the operands. -/
theorem outcome_flagged (m : Machine) (op : Opcode) (data : ∀ x, m.registers.get x ≤ 0xff)
    {i : Instruction} (flagged : i ∈ Instruction.flagged) :
  ∃ r on, r ≤ 0xff ∧ i.Balances (m.registers.get op.x) (m.registers.get op.y) r on.toNat ∧
    m.outcome i op = m.assignWithFlag op.x r on
  := by
  have a := data op.x
  have b := data op.y
  cases i with
  | add | subtract | subtractFrom | shiftLeft =>
      refine ⟨_, _, ?_, ?_, rfl⟩
      · omega
      · rw [Instruction.Balances, Action.toNat_eq_ite decide_eq_true_iff]
        split <;> omega
  | shiftRight =>
      refine ⟨_, _, ?_, ?_, rfl⟩
      · omega
      · rw [Instruction.Balances, Action.toNat_eq_ite beq_iff_eq]
        split <;> omega
  | _ => exact absurd flagged (by decide)

end Machine

/-! ### Executing the instructions -/

namespace Action

open Machine

section

variable {m : Machine} (wf : m.WellFormed) (near : m.registers.pc.value ≤ 0xfffd) (op : Opcode)

include wf near

theorem execute_flagged {i : Instruction} (flagged : i ∈ Instruction.flagged) :
  execute i op m = .ok () (m.outcome i op)
  := by
  have near' : m.registers.pc.value + 2 < 0x10000 := by omega
  cases i with
  | add => apply execute_add near'
  | subtract => apply execute_subtract wf.data near'
  | shiftRight => apply execute_shiftRight wf.data near'
  | subtractFrom => apply execute_subtractFrom wf.data near'
  | shiftLeft => apply execute_shiftLeft near'
  | _ => exact absurd flagged (by decide)

theorem execute_combined {i : Instruction} {r : Nat}
    (combined : i.combined? (m.registers.get op.x) (m.registers.get op.y) op.kk = some r) :
  execute i op m = .ok () (m.assign op.x r)
  := by
  have near' : m.registers.pc.value + 2 < 0x10000 := by omega
  cases i <;> cases combined
  case addByte => apply execute_addByte near'
  case copy => apply execute_copy wf.data near'
  case or => apply execute_or wf.data near'
  case and => apply execute_and wf.data near'
  case xor => apply execute_xor wf.data near'

end

/-- An instruction that sets the flag stores a result and then a flag which make up for the
operands, and one that does not set it stores what it makes of the operands and keeps all other
registers. None of them fails, and the program goes on at the next word. -/
theorem arithmetic_conserves {m : Machine} (wf : m.WellFormed)
    (near : m.registers.pc.value ≤ 0xfffd) (op : Opcode) :
  let a := m.registers.get op.x
  let b := m.registers.get op.y
  (∀ i ∈ Instruction.flagged, ∃ r f m', r ≤ 255 ∧ f ≤ 1 ∧ i.Balances a b r f ∧
      execute i op m = .ok () m' ∧
      m' = ((m.withData op.x r).withData Registers.flag f).withPc (m.registers.pc.value + 2) ∧
      (op.x ≠ Registers.flag → m'.registers.get op.x = r) ∧
      m'.registers.get Registers.flag = f) ∧
    ∀ i r, i.combined? a b op.kk = some r → ∃ m', execute i op m = .ok () m' ∧
      m' = (m.withData op.x r).withPc (m.registers.pc.value + 2) ∧
      m'.registers.get op.x = r ∧ ∀ y ≠ op.x, m'.registers.get y = m.registers.get y
  := by
  intro a b
  constructor
  · intro i flagged
    obtain ⟨r, on, byte, balanced, outcome⟩ := m.outcome_flagged op wf.data flagged
    obtain ⟨result, flag⟩ := m.get_assignWithFlag_self op.x r on
    use r, on.toNat, m.assignWithFlag op.x r on, byte, Bool.toNat_le on, balanced
    rw [execute_flagged wf near op flagged, outcome]
    exact ⟨rfl, rfl, result, flag⟩
  · intro i r combined
    use m.assign op.x r, execute_combined wf near op combined, rfl
    constructor
    · apply (m.get_withData op.x op.x r).trans (if_pos rfl)
    · intro y other
      apply m.get_assign r other

/-- A machine that was just booted, with a minuend in the flag register and a larger subtrahend in
another one. -/
def borrowing : Machine :=
  let op := Opcode.ofWord 0x8f45
  (((Machine.initial (.ofList [])).booted []).withData op.x 3).withData op.y 5

/-- A borrow shows in the flag, which prevails over the difference, and adding a byte to the flag
register is no special case. -/
theorem arithmetic_conserves_borrowing :
  borrowing.WellFormed ∧ borrowing.registers.pc.value ≤ 0xfffd ∧
    (∃ m', execute .subtract (.ofWord 0x8f45) borrowing = .ok () m' ∧
      m'.registers.get Registers.flag = 0) ∧
    ∃ m', execute .addByte (.ofWord 0x7fff) borrowing = .ok () m' ∧
      m'.registers.get Registers.flag = 2
  := by
  have wf : borrowing.WellFormed :=
    ((booted_inBounds _ _).wellFormed.withData _ (by decide)).withData _ (by decide)
  have near : borrowing.registers.pc.value ≤ 0xfffd := by decide
  use wf, near
  constructor
  · have operands : borrowing.registers.get (Opcode.ofWord 0x8f45).x = 3 ∧
        borrowing.registers.get (Opcode.ofWord 0x8f45).y = 5 := by decide +kernel
    obtain ⟨r, f, m', byte, bit, balanced, executed, -, -, flag⟩ :=
      (arithmetic_conserves wf near (.ofWord 0x8f45)).1 .subtract (by decide)
    rw [operands.1, operands.2, Instruction.Balances] at balanced
    use m', executed
    rw [flag]
    omega
  · obtain ⟨m', executed, -, result, -⟩ :=
      (arithmetic_conserves wf near (.ofWord 0x7fff)).2 .addByte 2 (by decide +kernel)
    use m', executed, result

end Action

end Chip8
