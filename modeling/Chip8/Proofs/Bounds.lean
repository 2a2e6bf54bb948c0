import Chip8.Proofs.Execution

/-!
# Bounds on the machine

The program counter and the entries of the call stack are far below their widths: an instruction
is only fetched from an address of the memory, a call is pushed from there, and a jump goes at most
the largest byte beyond the largest address. These bounds, with the widths of all parts, are kept
by every instruction, be it carried out or refused (`InBounds.outcome`, `Within.remnant`), and
they are what makes a return succeed once its entry was taken.
-/

namespace Chip8.Machine

/-- The bounds of a machine that runs a program: every part holds a number of its width, the
program counter is at most the largest byte beyond the largest address, and all calls were made
from addresses of words. -/
abbrev InBounds (m : Machine) : Prop := m.Within 0x10fe 0xffe

variable {m : Machine} {far back : Nat}

theorem Within.mono {far' back' : Nat} (h : m.Within far back) (pc : far ≤ far')
    (entries : back ≤ back') :
  m.Within far' back'
  where
  data := h.data
  index := h.index
  pc := Nat.le_trans h.pc pc
  ram := h.ram
  vram := h.vram
  delay := h.delay
  sound := h.sound
  depth := h.depth
  entries a ha := Nat.le_trans (h.entries a ha) entries

theorem InBounds.wellFormed (h : m.InBounds) :
  m.WellFormed
  := h.mono (by decide) (by decide)

/-! ### Changes of one part -/

namespace Within

theorem withData (h : m.Within far back) (x : Fin 16) {n : Nat} (small : n ≤ 0xff) :
  (m.withData x n).Within far back
  := by
  have data : ∀ y, (m.withData x n).registers.get y ≤ 0xff := by
    intro y
    rw [get_withData]
    split
    · apply small
    · apply h.data
  exact { h with data := data }

theorem withPc (h : m.Within far back) {n : Nat} (near : n ≤ far) :
  (m.withPc n).Within far back
  := { h with pc := near }

theorem forward (h : m.Within far back) {n : Nat} (near : m.registers.pc.value + n ≤ far) :
  (m.forward n).Within far back
  := { h with pc := near }

theorem withIndex (h : m.Within far back) {n : Nat} (small : n ≤ 0xfff) :
  (m.withIndex n).Within far back
  := { h with index := small }

theorem withRam (h : m.Within far back) {ram : Memory .ram} (bytes : ∀ k, ram.get k ≤ 0xff) :
  (m.withRam ram).Within far back
  := { h with ram := bytes }

theorem withVram (h : m.Within far back) {vram : Memory Geometry.standard.bank}
    (bits : vram.IsBits) :
  (m.withVram vram).Within far back
  := { h with vram := bits }

theorem load (h : m.Within far back) (xs : List (Fin 16)) (a : Nat) :
  (m.load xs a).Within far back
  := by
  induction xs generalizing m a with
  | nil => apply h
  | cons x xs ih => apply ih (h.withData x (h.ram a))

theorem assign (h : m.Within far back) (x : Fin 16) {n : Nat} (small : n ≤ 0xff)
    (near : m.registers.pc.value + 2 ≤ far) :
  (m.assign x n).Within far back
  := (h.withData x small).forward near

theorem assignWithFlag (h : m.Within far back) (x : Fin 16) (on : Bool) {n : Nat}
    (small : n ≤ 0xff) (near : m.registers.pc.value + 2 ≤ far) :
  (m.assignWithFlag x n on).Within far back
  := by
  have flag : on.toNat ≤ 0xff := Nat.le_trans (Bool.toNat_le on) (by decide)
  exact ((h.withData x small).withData Registers.flag flag).forward near

theorem withSprite (h : m.Within far back) (places : List Nat) :
  (m.withSprite places).Within far back
  := by
  have flag : (m.screen.vram.collides places).toNat ≤ 0xff :=
    Nat.le_trans (Bool.toNat_le _) (by decide)
  have bits := (h.withVram (h.vram.toggleAll places)).withData Registers.flag flag
  exact { bits with vram := bits.vram }

theorem skip (h : m.Within far back) (condition : Bool) (near : m.registers.pc.value + 4 ≤ far) :
  (m.skip condition).Within far back
  := by
  apply h.forward
  split <;> omega

/-- A row of bytes in range may be stored anywhere. -/
theorem withStored (h : m.Within far back) (a : Nat) {bytes : List Nat}
    (small : ∀ v ∈ bytes, v ≤ 0xff) :
  (m.withRam (m.ram.store a bytes)).Within far back
  := h.withRam (Memory.get_store_le bytes h.ram small a)

/-- The contents of data registers are bytes. -/
theorem values_le (h : m.Within far back) (xs : List (Fin 16)) :
  ∀ v ∈ xs.map m.registers.get, v ≤ 0xff
  := by
  intro v hv
  obtain ⟨x, -, rfl⟩ := List.mem_map.mp hv
  apply h.data

end Within

theorem digits_le {n v : Nat} (byte : n ≤ 0xff) (h : v ∈ digits n) :
  v ≤ 0xff
  := by
  simp only [digits, List.mem_cons, List.not_mem_nil, or_false] at h
  omega

/-! ### Refused instructions -/

/-- A refused instruction keeps all bounds, wherever it was fetched. -/
theorem Within.remnant (h : m.Within far back) (i : Instruction) (op : Opcode) :
  (m.remnant i op).Within far back
  := by
  cases i with
  | draw =>
      apply (h.withData Registers.flag (Nat.zero_le _)).withVram
      apply h.vram.toggleAll
  | storeDigits =>
      apply h.withStored
      intro v hv
      apply digits_le (h.data op.x) (List.mem_of_mem_take hv)
  | storeRegisters =>
      apply Within.withIndex _ (Nat.le_refl _)
      apply h.withStored
      apply h.values_le
  | loadRegisters => apply (h.load _ _).withIndex (Nat.le_refl _)
  | _ => apply h

/-! ### Instructions that are carried out -/

/-- Nothing is refused exactly if the condition for the refusal does not hold. -/
theorem granted_iff {p : Prop} {_ : Decidable p} {e : Fault} :
  (if p then some e else none) = none ↔ ¬p
  := by
  constructor
  · intro granted holds
    rw [if_pos holds] at granted
    cases granted
  · intro fails
    apply if_neg fails

/-- A call is pushed where it was fetched, and only on a stack which has room for it. -/
theorem InBounds.pushed (h : m.InBounds) (fetched : m.registers.pc.value ≤ 0xffe)
    (room : m.stack.newestFirst.length < 16) :
  { m with stack := ⟨m.registers.pc.value :: m.stack.newestFirst⟩ }.InBounds
  := by
  have entries : ∀ a ∈ m.registers.pc.value :: m.stack.newestFirst, a ≤ 0xffe :=
    List.forall_mem_cons.mpr ⟨fetched, h.entries⟩
  exact { h with depth := room, entries := entries }

/-- Taking the newest entry keeps the others. -/
theorem InBounds.popped (h : m.InBounds) :
  { m with stack := ⟨m.stack.newestFirst.tail⟩ }.InBounds
  := by
  have depth : m.stack.newestFirst.tail.length ≤ 16 := by
    rw [List.length_tail]
    apply Nat.le_trans (Nat.sub_le _ _) h.depth
  have entries : ∀ a ∈ m.stack.newestFirst.tail, a ≤ 0xffe := by
    intro a ha
    apply h.entries a (List.mem_of_mem_tail ha)
  exact { h with depth := depth, entries := entries }

/-- An instruction that was fetched from the memory and is carried out keeps all bounds. -/
theorem InBounds.outcome (h : m.InBounds) (fetched : m.registers.pc.value ≤ 0xffe)
    (i : Instruction) (word : Int) (granted : m.refusal? i (.ofWord word) = none) :
  (m.outcome i (.ofWord word)).InBounds
  := by
  have near : m.registers.pc.value + 2 ≤ 0x10fe := by omega
  have skips : m.registers.pc.value + 4 ≤ 0x10fe := by omega
  have byte := Opcode.kk_lt word
  have short := Opcode.nnn_lt word
  have a := h.data (Opcode.ofWord word).x
  have b := h.data (Opcode.ofWord word).y
  cases i with
  | clearScreen =>
      have off : (Memory.zeros : Memory Geometry.standard.bank).IsBits := by
        intro k
        rw [Memory.get_zeros]
        apply Nat.zero_le
      have cleared : { m with screen := m.screen.clear.requestRedraw }.InBounds :=
        { h with vram := off }
      exact cleared.forward near
  | ret =>
      -- The bound on the entries is what keeps the program counter near.
      have top : m.stack.newestFirst.headD 0 ≤ 0xffe := by
        cases entries : m.stack.newestFirst with
        | nil => apply Nat.zero_le
        | cons a rest => apply h.entries a (by rw [entries]; apply List.mem_cons_self)
      apply h.popped.withPc (by omega)
  | jump => apply h.withPc (by omega)
  | call =>
      have room := granted_iff.mp granted
      apply (h.pushed fetched (Nat.lt_of_not_le room)).withPc (by omega)
  | skipIfByte => apply h.skip _ skips
  | skipUnlessByte => apply h.skip _ skips
  | skipIfEqual => apply h.skip _ skips
  | loadByte => apply h.assign _ (by omega) near
  | addByte => apply h.assign _ (by omega) near
  | copy => apply h.assign _ b near
  | or =>
      have small := Nat.or_lt_two_pow (n := 8) (Nat.lt_succ_of_le a) (Nat.lt_succ_of_le b)
      apply h.assign _ (Nat.le_of_lt_succ small) near
  | and => apply h.assign _ (Nat.le_trans Nat.and_le_left a) near
  | xor =>
      have small := Nat.xor_lt_two_pow (n := 8) (Nat.lt_succ_of_le a) (Nat.lt_succ_of_le b)
      apply h.assign _ (Nat.le_of_lt_succ small) near
  | add => apply h.assignWithFlag _ _ (by omega) near
  | subtract => apply h.assignWithFlag _ _ (by omega) near
  | shiftRight => apply h.assignWithFlag _ _ (by omega) near
  | subtractFrom => apply h.assignWithFlag _ _ (by omega) near
  | shiftLeft => apply h.assignWithFlag _ _ (by omega) near
  | skipUnlessEqual => apply h.skip _ skips
  | loadIndex =>
      have moved : (m.withIndex (Opcode.ofWord word).nnn).InBounds := h.withIndex (by omega)
      exact moved.forward near
  | jumpOffset =>
      have offset := h.data Registers.first
      apply h.withPc (by omega)
  | random =>
      have drawn : { m with random := m.random.next.2 }.InBounds := { h with }
      apply drawn.assign _ _ near
      apply Nat.le_trans Nat.and_le_right (by omega)
  | draw =>
      have drawn := h.withSprite (spritePlaces m.ram (m.registers.get (Opcode.ofWord word).x)
        (m.registers.get (Opcode.ofWord word).y) m.registers.i.value
        (List.range (Opcode.ofWord word).n))
      exact drawn.forward near
  | skipIfKey => apply h.skip _ skips
  | skipUnlessKey => apply h.skip _ skips
  | loadDelay => apply h.assign _ h.delay near
  | awaitKey =>
      rw [Machine.outcome]
      split
      · exact { h with }
      · next key _ =>
          have resumed : { m with awaiting := none }.InBounds := { h with }
          apply resumed.assign _ (by omega) near
  | setDelay =>
      have set : { m with delay := ⟨m.registers.get (Opcode.ofWord word).x⟩ }.InBounds :=
        { h with delay := a }
      exact set.forward near
  | setSound =>
      have set : { m with sound := ⟨m.registers.get (Opcode.ofWord word).x⟩ }.InBounds :=
        { h with sound := a }
      exact set.forward near
  | addIndex =>
      have inside := Nat.le_of_not_lt (granted_iff.mp granted)
      exact Within.forward (h.withIndex inside) near
  | pointGlyph =>
      have glyph : fontStart + m.registers.get (Opcode.ofWord word).x * glyphRows ≤ 0xfff := by
        rw [fontStart, glyphRows]
        omega
      exact Within.forward (h.withIndex glyph) near
  | storeDigits =>
      have stored := h.withStored m.registers.i.value fun v hv => digits_le a hv
      exact stored.forward near
  | storeRegisters =>
      have inside := Nat.le_of_not_lt (granted_iff.mp granted)
      have stored := h.withStored m.registers.i.value
        (h.values_le (Action.registersTo (Opcode.ofWord word).x))
      exact Within.forward (stored.withIndex inside) near
  | loadRegisters =>
      have inside := Nat.le_of_not_lt (granted_iff.mp granted)
      have loaded := h.load (Action.registersTo (Opcode.ofWord word).x) m.registers.i.value
      apply Within.forward (loaded.withIndex inside)
      rw [m.load_eq]
      apply near

end Chip8.Machine
