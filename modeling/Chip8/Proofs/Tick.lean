import Chip8.Processor
import Chip8.Proofs.Bounds
import Chip8.Proofs.Dispatch

/-!
# Steps and ticks

On a machine within its bounds, a tick fails exactly if the machine has a fault
(`Machine.fault?`): the program counter is not the address of a word, the word has no instruction,
or its instruction is refused. What a step leaves is told by `Processor.stepped` in either case.
The peripherals are served after a step that succeeds, and this cannot fail, so a tick ends with
the fault of the machine as well (`Processor.tick_eq`). All bounds are kept in either case.
-/

namespace Chip8

/-- Whether a fault comes from the check of a width, other than that of the address register. -/
def Fault.ofWidth : Fault → Bool
  | .tooWide name _ _ => name != "I"
  | .negativeWidth | .unwritableWidth | .notAByte _ => true
  | _ => false

namespace Machine

/-! ### What is executed next -/

/-- The word at the program counter. -/
def word (m : Machine) : Nat :=
  256 * m.ram.get m.registers.pc.value + m.ram.get (m.registers.pc.value + 1)

/-- The word that can be fetched. -/
def fetched? (m : Machine) : Option Nat :=
  if m.registers.pc.value ≤ 0xffe then some m.word else none

/-- The instruction that can be found. -/
def next? (m : Machine) : Option Instruction := m.fetched?.bind fun w => Instruction.ofWord? w

/-- The fault for which a tick fails, if there is one. -/
def fault? (m : Machine) : Option Fault :=
  if 0xffe < m.registers.pc.value then
    some (.badAddress "RAM" (max m.registers.pc.value 0x1000 : Nat))
  else
    match Instruction.ofWord? m.word with
    | none => some (.unknownWord m.word)
    | some i => m.refusal? i (.ofWord m.word)

/-- The machine which a step leaves, be it carried out or not. -/
def stepped (m : Machine) : Machine :=
  match m.next? with
  | none => m
  | some i =>
      match m.refusal? i (.ofWord m.word) with
      | none => m.outcome i (.ofWord m.word)
      | some _ => m.remnant i (.ofWord m.word)

/-! ### Fetching -/

theorem pack_two {a b : Nat} (byte : b < twoPow 8) :
  Memory.pack 8 [a, b] = 256 * a + b
  := by
  show (0 <<< 8 ||| a) <<< 8 ||| b = 256 * a + b
  rw [Nat.zero_shiftLeft, Nat.zero_or, Memory.shiftLeft_or_eq a byte]
  exact congrArg (· + b) (Nat.mul_comm a 256)

theorem fetch_eq_ok {m : Machine} (bytes : ∀ k, m.ram.get k ≤ 0xff)
    (inside : m.registers.pc.value ≤ 0xffe) :
  fetch m = .ok m.word m
  := by
  let pc := m.registers.pc.value
  have row : m.ram.readBytes pc 2 = .ok [m.ram.get pc, m.ram.get (pc + 1)] :=
    m.ram.readBytes_eq_ok (n := 2) (by omega) (by show pc + 2 ≤ 0x1000; omega)
  have narrow : ∀ item ∈ [m.ram.get pc, m.ram.get (pc + 1)], item < twoPow 8 := by
    simp only [List.forall_mem_cons, List.not_mem_nil, false_implies, implies_true, and_true]
    exact ⟨Nat.lt_succ_of_le (bytes _), Nat.lt_succ_of_le (bytes _)⟩
  have room : 2 * 8 ≤ Excess.bitLimit := by decide
  have joined := Memory.foldlM_join_zero narrow room
  rw [pack_two (Nat.lt_succ_of_le (bytes _))] at joined
  have read : m.ram.read pc 2 = .ok m.word := by
    rw [Memory.read, row]
    exact joined
  rw [fetch, Action.ask, read]

theorem fetch_eq_error {m : Machine} (outside : 0xffe < m.registers.pc.value) :
  fetch m = .error (.badAddress "RAM" (max m.registers.pc.value 0x1000 : Nat)) m
  := by
  have refused : m.ram.readBytes m.registers.pc.value 2 =
      .error (.badAddress "RAM" (max m.registers.pc.value 0x1000 : Nat)) := by
    by_cases last : m.registers.pc.value = 0xfff
    · rw [last, Memory.readBytes]
      rfl
    · have beyond : 0x1000 ≤ m.registers.pc.value := by omega
      rw [Nat.max_eq_left beyond]
      apply m.ram.readBytes_eq_error 2 beyond
  rw [fetch, Action.ask, Memory.read, refused]
  rfl

/-! ### Kinds of faults -/

theorem refusal?_kind {m : Machine} {i : Instruction} {op : Opcode} {e : Fault}
    (h : m.refusal? i op = some e) :
  e.isHalting = true ∧ e.ofWidth = false
  := by
  unfold refusal? at h
  split at h
  case h_10 => cases h
  all_goals
    obtain ⟨-, ⟨⟩⟩ := Option.ite_none_right_eq_some.mp h
    exact ⟨rfl, rfl⟩

/-- The three ways in which a tick fails. -/
theorem fault?_cases {m : Machine} {e : Fault} (fault : m.fault? = some e) :
  (0xffe < m.registers.pc.value ∧
      e = .badAddress "RAM" (max m.registers.pc.value 0x1000 : Nat)) ∨
    (m.registers.pc.value ≤ 0xffe ∧ Instruction.ofWord? m.word = none ∧
      e = .unknownWord m.word) ∨
    m.registers.pc.value ≤ 0xffe ∧
      ∃ i, Instruction.ofWord? m.word = some i ∧ m.refusal? i (.ofWord m.word) = some e
  := by
  rw [fault?] at fault
  split at fault
  · next outside =>
      left
      exact ⟨outside, (Option.some.inj fault).symm⟩
  · next inside =>
      right
      have inside := Nat.le_of_not_lt inside
      cases known : Instruction.ofWord? m.word with
      | none =>
          rw [known] at fault
          left
          exact ⟨inside, rfl, (Option.some.inj fault).symm⟩
      | some i =>
          rw [known] at fault
          right
          exact ⟨inside, i, rfl, fault⟩

/-- A tick that fails halts the processor, and for no width but that of the address register. -/
theorem fault?_kind {m : Machine} {e : Fault} (h : m.fault? = some e) :
  e.isHalting = true ∧ e.ofWidth = false
  := by
  rcases fault?_cases h with ⟨-, rfl⟩ | ⟨-, -, rfl⟩ | ⟨-, i, -, refused⟩
  · exact ⟨rfl, rfl⟩
  · exact ⟨rfl, rfl⟩
  · apply refusal?_kind refused

/-! ### Instructions that are found -/

theorem next?_of_inside {m : Machine} (inside : m.registers.pc.value ≤ 0xffe) :
  m.fetched? = some m.word ∧ m.next? = Instruction.ofWord? m.word
  := by
  have fetched : m.fetched? = some m.word := if_pos inside
  rw [next?, fetched]
  exact ⟨rfl, rfl⟩

theorem next?_of_outside {m : Machine} (outside : 0xffe < m.registers.pc.value) :
  m.fetched? = none ∧ m.next? = none
  := by
  have unfetched : m.fetched? = none := if_neg (Nat.not_le_of_gt outside)
  rw [next?, unfetched]
  exact ⟨rfl, rfl⟩

theorem next?_eq_some {m : Machine} {i : Instruction} (h : m.next? = some i) :
  m.registers.pc.value ≤ 0xffe ∧ Instruction.ofWord? m.word = some i
  := by
  rw [next?, fetched?] at h
  split at h
  · next inside => exact ⟨inside, h⟩
  · cases h

/-- An instruction that is found decides about the fault. -/
theorem fault?_of_next? {m : Machine} {i : Instruction} (h : m.next? = some i) :
  m.fault? = m.refusal? i (.ofWord m.word)
  := by
  obtain ⟨inside, found⟩ := next?_eq_some h
  rw [fault?, if_neg (Nat.not_lt_of_ge inside), found]

/-- A machine without a fault finds an instruction which it carries out. -/
theorem stepped_of_sound {m : Machine} (h : m.fault? = none) :
  ∃ i, m.next? = some i ∧ m.stepped = m.outcome i (.ofWord m.word)
  := by
  cases found : m.next? with
  | none =>
      rw [fault?] at h
      split at h
      · cases h
      · next inside =>
          rw [← (next?_of_inside (Nat.le_of_not_lt inside)).2, found] at h
          cases h
  | some i =>
      use i, rfl
      rw [fault?_of_next? found] at h
      rw [stepped, found]
      dsimp only
      rw [h]

/-- A step keeps all bounds, be it carried out or not. -/
theorem InBounds.stepped {m : Machine} (h : m.InBounds) :
  m.stepped.InBounds
  := by
  rw [Machine.stepped]
  split
  · apply h
  · next i known =>
      obtain ⟨inside, -⟩ := next?_eq_some known
      split
      · next granted => apply h.outcome inside i m.word granted
      · apply h.remnant

end Machine

namespace Processor

/-! ### Endings -/

/-- The end of an action that fails if there is a fault, with what it leaves in either case. -/
def ending (fault : Option Fault) (good bad : Processor) : EStateM.Result Fault Processor Unit :=
  match fault with
  | none => .ok () good
  | some e => .error e bad

section

variable {fault : Option Fault} {good bad d : Processor}

theorem ending_eq_ok_iff :
  ending fault good bad = .ok () d ↔ fault = none ∧ d = good
  := by
  cases fault with
  | none =>
      constructor
      · rintro ⟨⟩
        exact ⟨rfl, rfl⟩
      · rintro ⟨-, rfl⟩
        rfl
  | some e =>
      constructor
      · rintro ⟨⟩
      · rintro ⟨⟨⟩, -⟩

theorem ending_eq_error_iff {e : Fault} :
  ending fault good bad = .error e d ↔ fault = some e ∧ d = bad
  := by
  cases fault with
  | none =>
      constructor
      · rintro ⟨⟩
      · rintro ⟨⟨⟩, -⟩
  | some e' =>
      constructor
      · rintro ⟨⟩
        exact ⟨rfl, rfl⟩
      · rintro ⟨⟨⟩, rfl⟩
        rfl

end

/-! ### Steps -/

/-- The processor once it found out what it is about to execute, which it notes if it is live. -/
def aware (c : Processor) : Processor :=
  let known := { c with
    progress := ⟨c.machine.registers.pc.value, c.machine.fetched?, c.machine.next?⟩ }
  match c.machine.next? with
  | none => known
  | some i =>
      if c.live then
        known.note .debug .dump (Dump.line c.machine (some (c.machine.word : Int))
          (i.entry.mnemonic.describe (.ofWord c.machine.word)))
      else known

/-- The processor which a step leaves, be it carried out or not. -/
def stepped (c : Processor) : Processor := { c.aware with machine := c.machine.stepped }

section

variable {α : Type} {a : Action α} {c : Processor} {m : Machine}

theorem onMachine_of_ok {x : α} (h : a c.machine = .ok x m) :
  onMachine a c = .ok x { c with machine := m }
  := by
  rw [onMachine, h]

theorem onMachine_of_error {e : Fault} (h : a c.machine = .error e m) :
  onMachine a c = .error e { c with machine := m }
  := by
  rw [onMachine, h]

end

/-- Finding out what to execute changes nothing but the progress and the journal. -/
theorem aware_eq (c : Processor) :
  c.aware = { c with progress := c.aware.progress, journal := c.aware.journal }
  := by
  rw [aware]
  split
  · rfl
  · split <;> rfl

theorem aware_machine (c : Processor) :
  c.aware.machine = c.machine
  := by rw [aware_eq]

theorem lookup_of_some (c : Processor) {w : Nat} {i : Instruction}
    (h : Instruction.ofWord? w = some i) :
  lookup w c = .ok i.entry c
  := by
  rw [lookup, Instruction.lookup_eq, h]

theorem lookup_of_none (c : Processor) {w : Nat} (h : Instruction.ofWord? w = none) :
  lookup w c = .error (.unknownWord w) c
  := by
  rw [lookup, Instruction.lookup_eq, h]

/-- An instruction that was found is executed as it is attempted. -/
theorem execute_aware {c : Processor} (h : c.machine.InBounds)
    (inside : c.machine.registers.pc.value ≤ 0xffe) (i : Instruction) :
  onMachine (Action.execute i (.ofWord c.machine.word)) c.aware =
    ending (c.machine.refusal? i (.ofWord c.machine.word))
      { c.aware with machine := c.machine.outcome i (.ofWord c.machine.word) }
      { c.aware with machine := c.machine.remnant i (.ofWord c.machine.word) }
  := by
  have short : Action.reach i ≤ 4 := by cases i <;> decide
  have back : ∀ a ∈ c.machine.stack.newestFirst, a + 2 < 0x10000 := by
    intro a ha
    have key := h.entries a ha
    omega
  have executed := Action.execute_eq h.wellFormed i c.machine.word (by omega) back
  rw [onMachine, aware_machine, executed, Machine.attempt]
  cases c.machine.refusal? i (.ofWord c.machine.word) with
  | none => rfl
  | some e => rfl

/-- A step ends as the machine tells, and leaves the same changes in either case. -/
theorem step_eq {c : Processor} (h : c.machine.InBounds) :
  c.step = ending c.machine.fault? c.stepped c.stepped
  := by
  let begun := { c with progress := ⟨c.machine.registers.pc.value, none, none⟩ }
  -- Nothing is known of the instruction if the fetch fails, and only its word if the look-up does.
  by_cases beyond : 0xffe < c.machine.registers.pc.value
  · obtain ⟨unfetched, unknown⟩ := Machine.next?_of_outside beyond
    have left : c.stepped = begun := by
      rw [stepped, aware, Machine.stepped, unknown, unfetched]
    have refused := onMachine_of_error (c := begun) (Machine.fetch_eq_error beyond)
    rw [step, bind_of_ok (modify_apply _ c), bind_of_error refused, Machine.fault?, if_pos beyond,
      left]
    rfl
  · have inside : c.machine.registers.pc.value ≤ 0xffe := Nat.le_of_not_lt beyond
    obtain ⟨fetched, next⟩ := Machine.next?_of_inside inside
    have obtained := onMachine_of_ok (c := begun) (Machine.fetch_eq_ok h.ram inside)
    rw [step, bind_of_ok (modify_apply _ c), bind_of_ok obtained, bind_of_ok (modify_apply _ _),
      Machine.fault?, if_neg beyond]
    cases known : Instruction.ofWord? c.machine.word with
    | none =>
        have unknown : c.machine.next? = none := next.trans known
        rw [bind_of_error (lookup_of_none _ known), stepped, aware, Machine.stepped, unknown,
          fetched]
        rfl
    | some i =>
        have found : c.machine.next? = some i := next.trans known
        have noted : noteLive c.machine.word i.entry
            { c with progress := ⟨c.machine.registers.pc.value, some c.machine.word, some i⟩ } =
            .ok () c.aware := by
          rw [aware, found, fetched]
          rfl
        rw [bind_of_ok (lookup_of_some _ known), bind_of_ok (modify_apply _ _)]
        apply Eq.trans (bind_of_ok noted _)
        apply Eq.trans (execute_aware h inside i)
        rw [stepped, Machine.stepped, found]
        dsimp only
        cases c.machine.refusal? i (.ofWord c.machine.word) with
        | none => rfl
        | some e => rfl

/-! ### Peripherals -/

/-- The processor after it published the pixels, if a redraw was scheduled. -/
def presented (c : Processor) : Processor :=
  if c.machine.screen.redraw then
    { c with machine := { c.machine with
      screen := { c.machine.screen with
        display := c.machine.screen.display.put (c.machine.screen.vram.extract 0 2048)
        redraw := false } } }
  else c

/-- The processor after it counted down the delay timer, which stays at zero. -/
def delayed (c : Processor) : Processor :=
  { c with machine := { c.machine with delay := ⟨c.machine.delay.value - 1⟩ } }

/-- The processor after it counted down the sound timer with the buzzer on, or switched the buzzer
off. -/
def buzzed (c : Processor) : Processor :=
  if c.machine.sound.ticking then
    { c with
      buzzerChannel := c.buzzerChannel.play
      machine := { c.machine with sound := ⟨c.machine.sound.value - 1⟩ } }
  else c.silence

/-- The processor after it served the peripherals and completed the tick. -/
def served (c : Processor) : Processor :=
  { c.presented.delayed.buzzed.readKeys with ticks := c.presented.delayed.buzzed.ticks + 1 }

theorem present_eq (c : Processor) :
  c.present = .ok c.machine.screen.redraw c.presented
  := by
  have frame : c.machine.screen.snapshot = .ok (c.machine.screen.vram.extract 0 2048) :=
    c.machine.screen.vram.readBytes_eq_ok (a := 0) (n := 2048) (by decide) (by decide)
  cases scheduled : c.machine.screen.redraw with
  | false =>
      rw [present, onMachine, Action.exchange, Screen.draw, presented, scheduled]
      rfl
  | true =>
      rw [present, onMachine, Action.exchange, Screen.draw, presented, scheduled, if_pos rfl,
        frame]
      rfl

theorem countDown_eq_ok {name : String} {t : Timer name} (byte : t.value ≤ 0xff)
    (running : t.ticking = true) :
  Timer.countDown t = .ok ⟨t.value - 1⟩
  := by
  have positive : 0 < t.value := of_decide_eq_true running
  have small : t.value - 1 < 256 := by omega
  have less : (t.value : Int) + -1 = (t.value - 1 : Nat) := by omega
  rw [Timer.countDown, if_pos running, Cell.add, less]
  apply @Action.write_eq_ok name 8 _ t small

theorem countDelay_eq {c : Processor} (byte : c.machine.delay.value ≤ 0xff) :
  c.countDelay = .ok () c.delayed
  := by
  cases running : c.machine.delay.ticking with
  | false =>
      have zero : c.machine.delay.value = 0 := Nat.eq_zero_of_not_pos (of_decide_eq_false running)
      have same : c.delayed = c := by
        rw [delayed, zero, Nat.zero_sub, ← zero]
      rw [same, countDelay, onMachine, Action.change, running]
      rfl
  | true =>
      rw [countDelay, onMachine, Action.change, running, if_pos rfl, countDown_eq_ok byte running]
      rfl

theorem serveBuzzer_eq {c : Processor} (byte : c.machine.sound.value ≤ 0xff) :
  c.serveBuzzer = .ok () c.buzzed
  := by
  rw [serveBuzzer, bind_of_ok (get_apply c), buzzed]
  cases running : c.machine.sound.ticking with
  | false => rfl
  | true =>
      have counted : onMachine (Action.change fun m => do
            return { m with sound := ← Timer.countDown m.sound })
          { c with buzzerChannel := c.buzzerChannel.play } =
          .ok () { c with
            buzzerChannel := c.buzzerChannel.play
            machine := { c.machine with sound := ⟨c.machine.sound.value - 1⟩ } } := by
        rw [onMachine, Action.change, countDown_eq_ok byte running]
        rfl
      rw [if_pos rfl, if_pos rfl, bind_of_ok (modify_apply _ c), counted]

/-- After a step, a tick serves the peripherals, and this succeeds. -/
theorem tick_of_step_ok {c d : Processor} (stepped : c.step = .ok () d)
    (delay : d.machine.delay.value ≤ 0xff) (sound : d.machine.sound.value ≤ 0xff) :
  c.tick = .ok () d.served
  := by
  have delay' : d.presented.machine.delay.value ≤ 0xff := by
    rw [presented]
    split <;> exact delay
  have sound' : d.presented.delayed.machine.sound.value ≤ 0xff := by
    rw [presented]
    split <;> exact sound
  rw [tick, bind_of_ok stepped, bind_of_ok (present_eq d), bind_of_ok (countDelay_eq delay'),
    bind_of_ok (serveBuzzer_eq sound')]
  rfl

theorem tick_of_step_error {c d : Processor} {e : Fault} (stepped : c.step = .error e d) :
  c.tick = .error e d
  := by
  rw [tick, bind_of_error stepped]

/-! ### Bounds -/

theorem stepped_inBounds {c : Processor} (h : c.machine.InBounds) :
  c.stepped.machine.InBounds
  := h.stepped

theorem presented_inBounds {c : Processor} (h : c.machine.InBounds) :
  c.presented.machine.InBounds
  := by
  rw [presented]
  split
  · exact { h with }
  · apply h

theorem delayed_inBounds {c : Processor} (h : c.machine.InBounds) :
  c.delayed.machine.InBounds
  := { h with delay := Nat.le_trans (Nat.sub_le _ 1) h.delay }

theorem buzzed_inBounds {c : Processor} (h : c.machine.InBounds) :
  c.buzzed.machine.InBounds
  := by
  rw [buzzed]
  split
  · exact { h with sound := Nat.le_trans (Nat.sub_le _ 1) h.sound }
  · exact { h with }

/-- Reading the keys changes nothing else of the machine. -/
theorem readKeys_machine (c : Processor) :
  ∃ keys, c.readKeys.machine =
    { c.machine with registers := { c.machine.registers with keys := keys } }
  := by
  rcases taken : c.keyChannel.slot.take with ⟨newest, slot⟩
  rw [readKeys, KeyChannel.update, taken]
  cases newest with
  | none => use c.machine.registers.keys
  | some keys => use keys

theorem readKeys_inBounds {c : Processor} (h : c.machine.InBounds) :
  c.readKeys.machine.InBounds
  := by
  obtain ⟨keys, read⟩ := readKeys_machine c
  rw [read]
  exact { h with }

theorem served_inBounds {c : Processor} (h : c.machine.InBounds) :
  c.served.machine.InBounds
  := readKeys_inBounds (buzzed_inBounds (delayed_inBounds (presented_inBounds h)))

/-! ### Control -/

/-- What decides where the program goes on, and what the processor is executing. -/
def control (c : Processor) : Cell "PC" 16 × CallStack 16 16 × Progress :=
  (c.machine.registers.pc, c.machine.stack, c.progress)

theorem presented_control (c : Processor) :
  c.presented.control = c.control
  := by
  rw [presented]
  split <;> rfl

theorem buzzed_control (c : Processor) :
  c.buzzed.control = c.control
  := by
  rw [buzzed]
  split <;> rfl

theorem readKeys_control (c : Processor) :
  c.readKeys.control = c.control
  := by
  obtain ⟨keys, read⟩ := readKeys_machine c
  rw [control, read]
  rfl

/-- The peripherals do not take part in the control. -/
theorem served_control (c : Processor) :
  c.served.control = c.control
  := by
  calc c.served.control
    _ = c.presented.delayed.buzzed.readKeys.control := rfl
    _ = c.presented.delayed.buzzed.control := readKeys_control _
    _ = c.presented.delayed.control := buzzed_control _
    _ = c.presented.control := rfl
    _ = c.control := presented_control c

theorem stepped_progress (c : Processor) :
  c.stepped.progress = ⟨c.machine.registers.pc.value, c.machine.fetched?, c.machine.next?⟩
  := by
  rw [stepped, aware]
  split
  · rfl
  · split <;> rfl

/-! ### Ticks -/

/-- A tick fails exactly for the fault of the machine, and then it leaves what its step leaves. -/
theorem tick_eq {c : Processor} (h : c.machine.InBounds) :
  c.tick = ending c.machine.fault? c.stepped.served c.stepped
  := by
  have key := step_eq h
  have kept := stepped_inBounds h
  cases fault : c.machine.fault? with
  | none =>
      rw [fault] at key
      apply tick_of_step_ok key kept.delay kept.sound
  | some e =>
      rw [fault] at key
      apply tick_of_step_error key

theorem fault_of_tick_error {c d : Processor} (h : c.machine.InBounds) {e : Fault}
    (failed : c.tick = .error e d) :
  c.machine.fault? = some e ∧ d = c.stepped
  := ending_eq_error_iff.mp ((tick_eq h).symm.trans failed)

/-- A tick fails only while its instruction is fetched or executed. -/
theorem step_of_tick_error {c d : Processor} (h : c.machine.InBounds) {e : Fault}
    (failed : c.tick = .error e d) :
  c.step = .error e d
  := (step_eq h).trans (ending_eq_error_iff.mpr (fault_of_tick_error h failed))

theorem tick_of_fault {c : Processor} (h : c.machine.InBounds) {e : Fault}
    (fault : c.machine.fault? = some e) :
  c.tick = .error e c.stepped
  := by
  rw [tick_eq h]
  apply ending_eq_error_iff.mpr ⟨fault, rfl⟩

end Processor

end Chip8
