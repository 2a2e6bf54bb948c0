import Chip8.Proofs.Outcome

/-!
# Execution is attempting

Every instruction, executed on a well-formed machine from which the program counter can move on,
ends as `Machine.attempt` tells. The instructions are taken one by one, in the order of their
words; where several of them are one definition with parameters, so is their lemma.
-/

namespace Chip8.Action

open Machine

variable {m : Machine} {op : Opcode}

/-! ### Storing and going on -/

/-- A value in range is stored, and the machine goes on. -/
theorem setRegister_next (x : Fin 16) {n : Nat} (small : n ≤ 0xff)
    (near : m.registers.pc.value + 2 < 0x10000) :
  (do setRegister x n; next : Action Unit) m = .ok () (m.assign x n)
  := by
  rw [bind_of_ok (setRegister_eq_ok x m (Nat.lt_succ_of_le small))]
  exact next_eq_ok (m.withData x n) near

theorem setWithFlag_next (x : Fin 16) (on : Bool) {n : Nat} (small : n ≤ 0xff)
    (near : m.registers.pc.value + 2 < 0x10000) :
  (do setWithFlag x n on; next : Action Unit) m = .ok () (m.assignWithFlag x n on)
  := by
  rw [bind_of_ok (setWithFlag_eq_ok x on m (Nat.lt_succ_of_le small))]
  exact next_eq_ok ((m.withData x n).withData Registers.flag on.toNat) near

theorem combine_eq_ok (f : Nat → Nat → Nat) (x y : Fin 16)
    (small : f (m.registers.get x) (m.registers.get y) ≤ 0xff)
    (near : m.registers.pc.value + 2 < 0x10000) :
  combine f x y m = .ok () (m.assign x (f (m.registers.get x) (m.registers.get y)))
  := by
  rw [combine, bind_of_ok (register_apply x m), bind_of_ok (register_apply y m)]
  apply setRegister_next x small near

theorem setIndex_next {n : Nat} (small : n ≤ 0xfff) (near : m.registers.pc.value + 2 < 0x10000) :
  (do setIndex n; next : Action Unit) m = .ok () ((m.withIndex n).forward 2)
  := by
  rw [bind_of_ok (setIndex_eq_ok m (Nat.lt_succ_of_le small))]
  exact next_eq_ok (m.withIndex n) near

/-! ### The screen, jumps and calls -/

theorem execute_clearScreen (near : m.registers.pc.value + 2 < 0x10000) :
  execute .clearScreen op m = m.attempt .clearScreen op
  := by
  rw [execute, bind_of_ok (modify_apply _ m)]
  exact next_eq_ok { m with screen := m.screen.clear.requestRedraw } near

theorem execute_ret (back : ∀ a ∈ m.stack.newestFirst, a + 2 < 0x10000) :
  execute .ret op m = m.attempt .ret op
  := by
  cases entries : m.stack.newestFirst with
  | nil =>
      rw [attempt, refusal?, if_pos entries, execute, bind_of_error (exchange_eq_error _)]
      · rfl
      · rw [CallStack.pop, entries]
        rfl
  | cons a rest =>
      have near : a + 2 < 0x10000 := back a (by rw [entries]; apply List.mem_cons_self)
      have filled : ¬(m.stack.newestFirst = []) := by
        rw [entries]
        apply List.cons_ne_nil
      let popped : Machine := { m with stack := ⟨rest⟩ }
      have taken : m.stack.pop = .ok (a, popped.stack) := by
        rw [CallStack.pop, entries]
      rw [attempt, refusal?, if_neg filled, outcome, entries, execute,
        bind_of_ok (exchange_eq_ok (d := popped) (x := a) (by rw [taken]; rfl)),
        bind_of_ok (goto_eq_ok popped (by omega))]
      exact advance_eq_ok (n := 2) (popped.withPc a) near

theorem execute_jump (short : op.nnn < 0x1000) :
  execute .jump op m = m.attempt .jump op
  := goto_eq_ok m (by omega)

theorem execute_call (pc : m.registers.pc.value ≤ 0xffff) (short : op.nnn < 0x1000) :
  execute .call op m = m.attempt .call op
  := by
  rw [execute, bind_of_ok (programCounter_apply m), attempt, refusal?]
  by_cases full : 16 ≤ m.stack.newestFirst.length
  · have full' : (16 : Int) ≤ m.stack.newestFirst.length := by omega
    rw [if_pos full, bind_of_error (change_eq_error _)]
    · rfl
    · rw [CallStack.push, if_pos full']
      rfl
  · have room : ¬((16 : Int) ≤ m.stack.newestFirst.length) := by omega
    have fits : fit "Stack" 16 m.registers.pc.value = .ok m.registers.pc.value :=
      @fit_of_lt _ 16 _ (Nat.lt_succ_of_le pc)
    let called : Machine := { m with stack := ⟨m.registers.pc.value :: m.stack.newestFirst⟩ }
    have pushed : m.stack.push m.registers.pc.value = .ok called.stack := by
      rw [CallStack.push, if_neg room, fits]
      rfl
    rw [if_neg full, bind_of_ok (change_eq_ok (d := called) (by rw [pushed]; rfl))]
    exact goto_eq_ok called (by omega)

theorem execute_jumpOffset (data : ∀ x, m.registers.get x ≤ 0xff) (short : op.nnn < 0x1000) :
  execute .jumpOffset op m = m.attempt .jumpOffset op
  := by
  have key := data Registers.first
  rw [execute, bind_of_ok (register_apply Registers.first m)]
  exact goto_eq_ok m (by omega)

/-! ### Skips -/

theorem execute_skipIfByte (near : m.registers.pc.value + 4 < 0x10000) :
  execute .skipIfByte op m = m.attempt .skipIfByte op
  := by
  rw [execute, bind_of_ok (register_apply op.x m)]
  exact skipIf_eq_ok _ m near

theorem execute_skipUnlessByte (near : m.registers.pc.value + 4 < 0x10000) :
  execute .skipUnlessByte op m = m.attempt .skipUnlessByte op
  := by
  rw [execute, bind_of_ok (register_apply op.x m)]
  exact skipIf_eq_ok _ m near

theorem execute_skipIfEqual (near : m.registers.pc.value + 4 < 0x10000) :
  execute .skipIfEqual op m = m.attempt .skipIfEqual op
  := by
  rw [execute, bind_of_ok (register_apply op.x m), bind_of_ok (register_apply op.y m)]
  exact skipIf_eq_ok _ m near

theorem execute_skipUnlessEqual (near : m.registers.pc.value + 4 < 0x10000) :
  execute .skipUnlessEqual op m = m.attempt .skipUnlessEqual op
  := by
  rw [execute, bind_of_ok (register_apply op.x m), bind_of_ok (register_apply op.y m)]
  exact skipIf_eq_ok _ m near

/-- A skip that depends on a key is refused for a number that no key has. -/
theorem skipByKey_eq (f : Bool → Bool) (x : Fin 16) (near : m.registers.pc.value + 4 < 0x10000) :
  (do skipIf (f (← keyDown (← register x))) : Action Unit) m =
    match if 15 < m.registers.get x then some (Fault.badRegister .key (m.registers.get x))
      else none with
    | some e => .error e m
    | none => .ok () (m.skip (f (m.registers.holds (m.registers.get x))))
  := by
  rw [bind_of_ok (register_apply x m)]
  by_cases beyond : 15 < m.registers.get x
  · rw [if_pos beyond, bind_of_error (keyDown_eq_error m beyond)]
  · rw [if_neg beyond, bind_of_ok (keyDown_eq_ok m (by omega))]
    exact skipIf_eq_ok _ m near

theorem execute_skipIfKey (near : m.registers.pc.value + 4 < 0x10000) :
  execute .skipIfKey op m = m.attempt .skipIfKey op
  := skipByKey_eq id op.x near

theorem execute_skipUnlessKey (near : m.registers.pc.value + 4 < 0x10000) :
  execute .skipUnlessKey op m = m.attempt .skipUnlessKey op
  := skipByKey_eq not op.x near

/-! ### Arithmetic -/

/-- A difference of bytes wraps around. -/
theorem sub_emod (a : Nat) {b : Nat} (byte : b ≤ 0xff) :
  ((a : Int) - b) % 256 = ((a + 256 - b) % 256 : Nat)
  := by omega

section

variable (data : ∀ x, m.registers.get x ≤ 0xff) (near : m.registers.pc.value + 2 < 0x10000)

include near

theorem execute_loadByte (byte : op.kk < 256) :
  execute .loadByte op m = m.attempt .loadByte op
  := setRegister_next op.x (by omega) near

theorem execute_addByte :
  execute .addByte op m = m.attempt .addByte op
  := by
  rw [execute, bind_of_ok (register_apply op.x m)]
  exact setRegister_next op.x (by omega) near

theorem execute_add :
  execute .add op m = m.attempt .add op
  := by
  rw [execute, bind_of_ok (register_apply op.x m), bind_of_ok (register_apply op.y m)]
  exact setWithFlag_next op.x _ (by omega) near

theorem execute_shiftLeft :
  execute .shiftLeft op m = m.attempt .shiftLeft op
  := by
  rw [execute, bind_of_ok (register_apply op.y m)]
  exact setWithFlag_next op.x _ (by omega) near

theorem execute_random (byte : op.kk < 256) :
  execute .random op m = m.attempt .random op
  := by
  let drawn : Machine := { m with random := m.random.next.2 }
  have number : randomNumber m = .ok m.random.next.1 drawn := rfl
  have small : (m.random.next.1 % 256).toNat &&& op.kk ≤ op.kk := Nat.and_le_right
  rw [execute, bind_of_ok number]
  exact setRegister_next (m := drawn) op.x (by omega) near

include data

theorem execute_copy :
  execute .copy op m = m.attempt .copy op
  := combine_eq_ok _ op.x op.y (data op.y) near

theorem execute_or :
  execute .or op m = m.attempt .or op
  := by
  have a := data op.x
  have b := data op.y
  have small : m.registers.get op.x ||| m.registers.get op.y < 256 :=
    Nat.or_lt_two_pow (n := 8) (by omega) (by omega)
  exact combine_eq_ok _ op.x op.y (by omega) near

theorem execute_and :
  execute .and op m = m.attempt .and op
  := combine_eq_ok _ op.x op.y (Nat.le_trans Nat.and_le_left (data op.x)) near

theorem execute_xor :
  execute .xor op m = m.attempt .xor op
  := by
  have a := data op.x
  have b := data op.y
  have small : m.registers.get op.x ^^^ m.registers.get op.y < 256 :=
    Nat.xor_lt_two_pow (n := 8) (by omega) (by omega)
  exact combine_eq_ok _ op.x op.y (by omega) near

theorem execute_subtract :
  execute .subtract op m = m.attempt .subtract op
  := by
  rw [execute, bind_of_ok (register_apply op.x m), bind_of_ok (register_apply op.y m),
    sub_emod _ (data op.y)]
  exact setWithFlag_next op.x _ (by omega) near

theorem execute_shiftRight :
  execute .shiftRight op m = m.attempt .shiftRight op
  := by
  have b := data op.y
  rw [execute, bind_of_ok (register_apply op.y m)]
  exact setWithFlag_next op.x _ (by omega) near

theorem execute_subtractFrom :
  execute .subtractFrom op m = m.attempt .subtractFrom op
  := by
  rw [execute, bind_of_ok (register_apply op.x m), bind_of_ok (register_apply op.y m),
    sub_emod _ (data op.x)]
  exact setWithFlag_next op.x _ (by omega) near

end

/-! ### Timers, keys and the address register -/

section

variable (data : ∀ x, m.registers.get x ≤ 0xff) (near : m.registers.pc.value + 2 < 0x10000)

include near

theorem execute_loadDelay (delay : m.delay.value ≤ 0xff) :
  execute .loadDelay op m = m.attempt .loadDelay op
  := by
  rw [execute, bind_of_ok (get_apply m)]
  exact setRegister_next op.x delay near

theorem execute_awaitKey :
  execute .awaitKey op m = m.attempt .awaitKey op
  := by
  have granted : m.attempt .awaitKey op = .ok () (m.outcome .awaitKey op) := rfl
  rw [execute, bind_of_ok (get_apply m), granted, outcome]
  cases m.registers.pressedKey with
  | none => rfl
  | some key =>
      have small : key.val < 256 := Nat.lt_trans key.isLt (by decide)
      let loaded := m.withData op.x key.val
      dsimp only
      rw [bind_of_ok (setRegister_eq_ok op.x m small), bind_of_ok (modify_apply _ loaded)]
      exact next_eq_ok { loaded with awaiting := none } near

theorem execute_loadIndex (short : op.nnn < 0x1000) :
  execute .loadIndex op m = m.attempt .loadIndex op
  := setIndex_next (by omega) near

theorem execute_addIndex :
  execute .addIndex op m = m.attempt .addIndex op
  := by
  rw [execute, bind_of_ok (register_apply op.x m), attempt, refusal?]
  by_cases far : 0xfff < m.registers.i.value + m.registers.get op.x
  · rw [if_pos far, bind_of_error (addIndex_eq_error m far)]
    rfl
  · rw [if_neg far, bind_of_ok (addIndex_eq_ok m (by omega))]
    exact next_eq_ok (m.withIndex _) near

include data

theorem execute_setDelay :
  execute .setDelay op m = m.attempt .setDelay op
  := by
  let changed : Machine := { m with delay := ⟨m.registers.get op.x⟩ }
  have written : m.delay.write (m.registers.get op.x) = .ok changed.delay :=
    @write_eq_ok _ 8 _ _ (Nat.lt_succ_of_le (data op.x))
  rw [execute, bind_of_ok (register_apply op.x m),
    bind_of_ok (change_eq_ok (d := changed) (by rw [written]; rfl))]
  exact next_eq_ok changed near

theorem execute_setSound :
  execute .setSound op m = m.attempt .setSound op
  := by
  let changed : Machine := { m with sound := ⟨m.registers.get op.x⟩ }
  have written : m.sound.write (m.registers.get op.x) = .ok changed.sound :=
    @write_eq_ok _ 8 _ _ (Nat.lt_succ_of_le (data op.x))
  rw [execute, bind_of_ok (register_apply op.x m),
    bind_of_ok (change_eq_ok (d := changed) (by rw [written]; rfl))]
  exact next_eq_ok changed near

/-- The last glyph has its address below the programs, so every byte has one in range. -/
theorem execute_pointGlyph :
  execute .pointGlyph op m = m.attempt .pointGlyph op
  := by
  have key := data op.x
  rw [execute, bind_of_ok (register_apply op.x m)]
  apply setIndex_next _ near
  rw [fontStart, glyphRows]
  omega

end

/-! ### Sprites -/

theorem execute_draw (vram : m.screen.vram.IsBits) (index : m.registers.i.value ≤ 0xfff)
    (near : m.registers.pc.value + 2 < 0x10000) :
  execute .draw op m = m.attempt .draw op
  := by
  rw [execute, attempt, refusal?]
  by_cases beyond : 0 < op.n ∧ 0xfff < m.registers.i.value + op.n - 1
  · rw [if_pos beyond, bind_of_error (drawSprite_eq_error vram op.x op.y index (by omega))]
    rfl
  · rw [if_neg beyond, bind_of_ok (drawSprite_eq_ok vram op.x op.y (by omega))]
    apply next_eq_ok
    apply near

/-! ### The memory -/

section

variable (index : m.registers.i.value ≤ 0xfff)

include index

/-- The digits are stored one after the other, those that have a location. -/
theorem execute_storeDigits (data : ∀ x, m.registers.get x ≤ 0xff)
    (near : m.registers.pc.value + 2 < 0x10000) :
  execute .storeDigits op m = m.attempt .storeDigits op
  := by
  have key := data op.x
  let first := m.withRam (m.ram.set m.registers.i.value (m.registers.get op.x / 100))
  let second := first.withRam
    (first.ram.set (m.registers.i.value + 1) (m.registers.get op.x / 10 % 10))
  rw [execute, bind_of_ok (register_apply op.x m), bind_of_ok (index_apply m),
    bind_of_ok (setByteAt_eq_ok m (by omega) (by omega)), attempt, refusal?]
  by_cases beyond : 0xfff < m.registers.i.value + 2
  · rw [if_pos beyond]
    by_cases last : m.registers.i.value = 0xfff
    · have one : 0x1000 - m.registers.i.value = 1 := by omega
      have refused : m.registers.i.value + 1 = 0x1000 := by omega
      rw [bind_of_error (setByteAt_eq_error first _ (by omega)), remnant, one, refused]
      rfl
    · have two : 0x1000 - m.registers.i.value = 2 := by omega
      have refused : m.registers.i.value + 2 = 0x1000 := by omega
      rw [bind_of_ok (setByteAt_eq_ok first (by omega) (by omega)),
        bind_of_error (setByteAt_eq_error second _ (by omega)), remnant, two, refused]
      rfl
  · rw [if_neg beyond, bind_of_ok (setByteAt_eq_ok first (by omega) (by omega)),
      bind_of_ok (setByteAt_eq_ok second (by omega) (by omega))]
    exact next_eq_ok (second.withRam _) near

theorem execute_storeRegisters (data : ∀ x, m.registers.get x ≤ 0xff)
    (near : m.registers.pc.value + 2 < 0x10000) :
  execute .storeRegisters op m = m.attempt .storeRegisters op
  := by
  have bytes : ∀ x, m.registers.get x < 256 := fun x => Nat.lt_succ_of_le (data x)
  have length := length_registersTo op.x
  rw [execute, attempt, refusal?]
  by_cases beyond : 0xfff < m.registers.i.value + op.x.val + 1
  · rw [if_pos beyond, bind_of_error (storeRegisters_eq_error _ bytes (by omega) (by omega))]
    rfl
  · rw [if_neg beyond, bind_of_ok (storeRegisters_eq_ok _ bytes (by omega)), length]
    exact next_eq_ok (Machine.withIndex _ _) near

theorem execute_loadRegisters (ram : ∀ k, m.ram.get k ≤ 0xff)
    (near : m.registers.pc.value + 2 < 0x10000) :
  execute .loadRegisters op m = m.attempt .loadRegisters op
  := by
  have bytes : ∀ k, m.ram.get k < 256 := fun k => Nat.lt_succ_of_le (ram k)
  have length := length_registersTo op.x
  rw [execute, attempt, refusal?]
  by_cases beyond : 0xfff < m.registers.i.value + op.x.val + 1
  · rw [if_pos beyond, bind_of_error (loadRegisters_eq_error _ bytes (by omega) (by omega))]
    rfl
  · rw [if_neg beyond, bind_of_ok (loadRegisters_eq_ok _ bytes (by omega)), length]
    apply next_eq_ok
    rw [m.load_eq]
    apply near

end

/-! ### All instructions -/

/-- How far an instruction moves the program counter on at most. -/
def reach : Instruction → Nat
  | .skipIfByte | .skipUnlessByte | .skipIfEqual | .skipUnlessEqual | .skipIfKey
  | .skipUnlessKey => 4
  | .jump | .call | .ret | .jumpOffset => 0
  | _ => 2

/-- An instruction ends as it is attempted, if the program counter can move on. -/
theorem execute_eq (wf : m.WellFormed) (i : Instruction) (word : Int)
    (near : m.registers.pc.value + reach i < 0x10000)
    (back : ∀ a ∈ m.stack.newestFirst, a + 2 < 0x10000) :
  execute i (.ofWord word) m = m.attempt i (.ofWord word)
  := by
  have byte := Opcode.kk_lt word
  have short := Opcode.nnn_lt word
  cases i with
  | clearScreen => apply execute_clearScreen near
  | ret => apply execute_ret back
  | jump => apply execute_jump short
  | call => apply execute_call wf.pc short
  | skipIfByte => apply execute_skipIfByte near
  | skipUnlessByte => apply execute_skipUnlessByte near
  | skipIfEqual => apply execute_skipIfEqual near
  | loadByte => apply execute_loadByte near byte
  | addByte => apply execute_addByte near
  | copy => apply execute_copy wf.data near
  | or => apply execute_or wf.data near
  | and => apply execute_and wf.data near
  | xor => apply execute_xor wf.data near
  | add => apply execute_add near
  | subtract => apply execute_subtract wf.data near
  | shiftRight => apply execute_shiftRight wf.data near
  | subtractFrom => apply execute_subtractFrom wf.data near
  | shiftLeft => apply execute_shiftLeft near
  | skipUnlessEqual => apply execute_skipUnlessEqual near
  | loadIndex => apply execute_loadIndex near short
  | jumpOffset => apply execute_jumpOffset wf.data short
  | random => apply execute_random near byte
  | draw => apply execute_draw wf.vram wf.index near
  | skipIfKey => apply execute_skipIfKey near
  | skipUnlessKey => apply execute_skipUnlessKey near
  | loadDelay => apply execute_loadDelay near wf.delay
  | awaitKey => apply execute_awaitKey near
  | setDelay => apply execute_setDelay wf.data near
  | setSound => apply execute_setSound wf.data near
  | addIndex => apply execute_addIndex near
  | pointGlyph => apply execute_pointGlyph wf.data near
  | storeDigits => apply execute_storeDigits wf.index wf.data near
  | storeRegisters => apply execute_storeRegisters wf.index wf.data near
  | loadRegisters => apply execute_loadRegisters wf.index wf.ram near

end Chip8.Action
