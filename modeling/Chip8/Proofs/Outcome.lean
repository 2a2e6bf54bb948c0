import Chip8.Proofs.Sprite
import Chip8.Proofs.Transfer

/-!
# Outcomes of instructions

On a machine whose parts hold numbers of their widths, an instruction has one of two outcomes.
Either it is refused, and then `Machine.refusal?` tells the fault and `Machine.remnant` the machine
it leaves, or it is carried out, and then `Machine.outcome` tells the machine after it. The main
statement is `Action.execute_eq`: executing an instruction is attempting it in this sense. What an
instruction changes and what it keeps is read off these functions.
-/

namespace Chip8

namespace Machine

/-! ### Widths -/

/-- Every part of the machine holds a number of its width, the program counter lies at most at
`far`, and the calls that were not returned from were made at most at `back`. -/
structure Within (far back : Nat) (m : Machine) : Prop where
  data : ∀ x, m.registers.get x ≤ 0xff
  index : m.registers.i.value ≤ 0xfff
  pc : m.registers.pc.value ≤ far
  ram : ∀ k, m.ram.get k ≤ 0xff
  vram : m.screen.vram.IsBits
  delay : m.delay.value ≤ 0xff
  sound : m.sound.value ≤ 0xff
  depth : m.stack.newestFirst.length ≤ 16
  entries : ∀ a ∈ m.stack.newestFirst, a ≤ back

/-- The widths of a machine, without further bounds. -/
abbrev WellFormed (m : Machine) : Prop := m.Within 0xffff 0xffff

/-! ### Refusals -/

/-- The fault for which an instruction is refused, if there is one. -/
def refusal? (m : Machine) (i : Instruction) (op : Opcode) : Option Fault :=
  match i with
  | .call => if 16 ≤ m.stack.newestFirst.length then some .stackOverflow else none
  | .ret => if m.stack.newestFirst = [] then some .stackUnderflow else none
  | .skipIfKey | .skipUnlessKey =>
      if 15 < m.registers.get op.x then some (.badRegister .key (m.registers.get op.x)) else none
  | .draw =>
      if 0 < op.n ∧ 0xfff < m.registers.i.value + op.n - 1 then some (.badAddress "RAM" 0x1000)
      else none
  | .storeDigits =>
      if 0xfff < m.registers.i.value + 2 then some (.badAddress "RAM" 0x1000) else none
  | .addIndex =>
      if 0xfff < m.registers.i.value + m.registers.get op.x then
        some (.tooWide "I" 12 (m.registers.i.value + m.registers.get op.x : Nat))
      else none
  | .storeRegisters | .loadRegisters =>
      if 0xfff < m.registers.i.value + op.x.val + 1 then some (.tooWide "I" 12 0x1000) else none
  | _ => none

/-- The decimal digits of a byte, the highest first. -/
def digits (n : Nat) : List Nat := [n / 100, n / 10 % 10, n % 10]

/-- The machine which an instruction leaves that is refused. -/
def remnant (m : Machine) (i : Instruction) (op : Opcode) : Machine :=
  match i with
  | .draw =>
      (m.withData Registers.flag 0).withVram (m.screen.vram.toggleAll
        (spritePlaces m.ram (m.registers.get op.x) (m.registers.get op.y) m.registers.i.value
          (List.range (0x1000 - m.registers.i.value))))
  | .storeDigits =>
      m.withRam (m.ram.store m.registers.i.value
        ((digits (m.registers.get op.x)).take (0x1000 - m.registers.i.value)))
  | .storeRegisters =>
      (m.withRam (m.ram.store m.registers.i.value
        (((Action.registersTo op.x).take (0x1000 - m.registers.i.value)).map
          m.registers.get))).withIndex 0xfff
  | .loadRegisters =>
      (m.load ((Action.registersTo op.x).take (0x1000 - m.registers.i.value))
        m.registers.i.value).withIndex 0xfff
  | _ => m

/-! ### Results -/

/-- The machine at the next word, or at the one after it if a condition holds. -/
def skip (m : Machine) (condition : Bool) : Machine := m.forward (if condition then 4 else 2)

/-- The machine at the next word with another number in a data register. -/
def assign (m : Machine) (x : Fin 16) (n : Nat) : Machine := (m.withData x n).forward 2

/-- The machine at the next word with a result in a data register, and the flag stored after it. -/
def assignWithFlag (m : Machine) (x : Fin 16) (n : Nat) (on : Bool) : Machine :=
  ((m.withData x n).withData Registers.flag on.toNat).forward 2

/-- The machine after an instruction that is carried out. -/
def outcome (m : Machine) (i : Instruction) (op : Opcode) : Machine :=
  let a := m.registers.get op.x
  let b := m.registers.get op.y
  let index := m.registers.i.value
  match i with
  | .clearScreen => { m with screen := m.screen.clear.requestRedraw }.forward 2
  | .ret =>
      { m with stack := ⟨m.stack.newestFirst.tail⟩ }.withPc (m.stack.newestFirst.headD 0 + 2)
  | .jump => m.withPc op.nnn
  | .call =>
      { m with stack := ⟨m.registers.pc.value :: m.stack.newestFirst⟩ }.withPc op.nnn
  | .skipIfByte => m.skip (a == op.kk)
  | .skipUnlessByte => m.skip (a != op.kk)
  | .skipIfEqual => m.skip (a == b)
  | .loadByte => m.assign op.x op.kk
  | .addByte => m.assign op.x ((a + op.kk) % 256)
  | .copy => m.assign op.x b
  | .or => m.assign op.x (a ||| b)
  | .and => m.assign op.x (a &&& b)
  | .xor => m.assign op.x (a ^^^ b)
  | .add => m.assignWithFlag op.x ((a + b) % 256) (255 < a + b)
  | .subtract => m.assignWithFlag op.x ((a + 256 - b) % 256) (b ≤ a)
  | .shiftRight => m.assignWithFlag op.x (b / 2) (b % 2 == 1)
  | .subtractFrom => m.assignWithFlag op.x ((b + 256 - a) % 256) (a ≤ b)
  | .shiftLeft => m.assignWithFlag op.x (2 * b % 256) (128 ≤ b)
  | .skipUnlessEqual => m.skip (a != b)
  | .loadIndex => (m.withIndex op.nnn).forward 2
  | .jumpOffset => m.withPc (op.nnn + m.registers.get Registers.first)
  | .random =>
      { m with random := m.random.next.2 }.assign op.x
        ((m.random.next.1 % 256).toNat &&& op.kk)
  | .draw => (m.withSprite (spritePlaces m.ram a b index (List.range op.n))).forward 2
  | .skipIfKey => m.skip (m.registers.holds a)
  | .skipUnlessKey => m.skip !(m.registers.holds a)
  | .loadDelay => m.assign op.x m.delay.value
  | .awaitKey =>
      match m.registers.pressedKey with
      | none => { m with awaiting := some op.x }
      | some key => { m with awaiting := none }.assign op.x key.val
  | .setDelay => { m with delay := ⟨a⟩ }.forward 2
  | .setSound => { m with sound := ⟨a⟩ }.forward 2
  | .addIndex => (m.withIndex (index + a)).forward 2
  | .pointGlyph => (m.withIndex (fontStart + a * glyphRows)).forward 2
  | .storeDigits => (m.withRam (m.ram.store index (digits a))).forward 2
  | .storeRegisters =>
      ((m.withRam (m.ram.store index ((Action.registersTo op.x).map m.registers.get))).withIndex
        (index + op.x.val + 1)).forward 2
  | .loadRegisters =>
      ((m.load (Action.registersTo op.x) index).withIndex (index + op.x.val + 1)).forward 2

/-- What becomes of an instruction. -/
def attempt (m : Machine) (i : Instruction) (op : Opcode) : EStateM.Result Fault Machine Unit :=
  match m.refusal? i op with
  | some e => .error e (m.remnant i op)
  | none => .ok () (m.outcome i op)

/-- An instruction that is attempted succeeds exactly if it is not refused. -/
theorem attempt_eq_ok_iff {m d : Machine} {i : Instruction} {op : Opcode} :
  m.attempt i op = .ok () d ↔ m.refusal? i op = none ∧ d = m.outcome i op
  := by
  rw [attempt]
  cases m.refusal? i op with
  | none =>
      constructor
      · rintro ⟨⟩
        exact ⟨rfl, rfl⟩
      · rintro ⟨-, rfl⟩
        rfl
  | some e =>
      constructor
      · rintro ⟨⟩
      · rintro ⟨⟨⟩, -⟩

theorem attempt_of_granted {m : Machine} {i : Instruction} {op : Opcode}
    (granted : m.refusal? i op = none) :
  m.attempt i op = .ok () (m.outcome i op)
  := attempt_eq_ok_iff.mpr ⟨granted, rfl⟩

end Machine

end Chip8
