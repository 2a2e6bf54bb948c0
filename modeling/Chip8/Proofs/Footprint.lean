import Chip8.Proofs.Frames
import Chip8.Proofs.Waiting

/-!
# Footprints of instructions

What an instruction may change is its footprint (`Machine.Footprint`): the data registers that it
assigns, the locations of the memory in which it stores, and whether it may change the address
register, the screen, the call stack, a timer or the note of a wait. Besides, the footprint tells
where the program goes on, and that random numbers are drawn by one instruction only, so the
numbers that a run draws are those of its source one after the other (`Processor.random_play`).
-/

namespace Chip8

/-! ### Numbers of a source -/

namespace RandomSource

/-- The source after a number of draws. -/
def advance (s : RandomSource) : Nat → RandomSource
  | 0 => s
  | n + 1 => (s.advance n).next.2

/-- The number that a source yields after a number of draws. -/
def number (s : RandomSource) (n : Nat) : Int := (s.advance n).next.1

theorem advance_add (s : RandomSource) (a b : Nat) :
  s.advance (a + b) = (s.advance a).advance b
  := by
  induction b with
  | zero => rfl
  | succ b ih => rw [Nat.add_succ, advance, ih, advance]

/-- After a draw, the numbers from the second one on are left. -/
theorem number_next (s : RandomSource) (n : Nat) :
  s.next.2.number n = s.number (n + 1)
  := by
  rw [number, number, Nat.add_comm, advance_add]
  rfl

end RandomSource

/-- How many of the instructions draw a random number. -/
def draws (history : List Executed) : Nat := history.countP fun x => x.instruction = .random

namespace Machine

/-! ### Footprints -/

/-- Some key is held down. -/
def KeyDown (m : Machine) : Prop := ∃ key, m.registers.keys.get key = true

instance (m : Machine) : Decidable m.KeyDown :=
  inferInstanceAs (Decidable (∃ key, m.registers.keys.get key = true))

/-- The data registers to which an instruction may assign. -/
def Assigns (m : Machine) (i : Instruction) (op : Opcode) (y : Fin 16) : Prop :=
  match i with
  | .loadByte | .addByte | .copy | .or | .and | .xor | .random | .loadDelay => y = op.x
  | .awaitKey => m.KeyDown ∧ y = op.x
  | .add | .subtract | .shiftRight | .subtractFrom | .shiftLeft => y = op.x ∨ y = Registers.flag
  | .draw => y = Registers.flag
  | .loadRegisters => y ≤ op.x
  | _ => False

/-- The addresses at which an instruction may store. -/
def Stores (m : Machine) (i : Instruction) (op : Opcode) (a : Nat) : Prop :=
  match i with
  | .storeDigits => m.registers.i.value ≤ a ∧ a ≤ m.registers.i.value + 2
  | .storeRegisters => m.registers.i.value ≤ a ∧ a ≤ m.registers.i.value + op.x.val
  | _ => False

/-- Whether an instruction skips the next one. -/
def skips (m : Machine) (i : Instruction) (op : Opcode) : Bool :=
  match i with
  | .skipIfByte => m.registers.get op.x == op.kk
  | .skipUnlessByte => m.registers.get op.x != op.kk
  | .skipIfEqual => m.registers.get op.x == m.registers.get op.y
  | .skipUnlessEqual => m.registers.get op.x != m.registers.get op.y
  | .skipIfKey => m.registers.holds (m.registers.get op.x)
  | .skipUnlessKey => !m.registers.holds (m.registers.get op.x)
  | _ => false

/-- The addresses at which the program may go on after an instruction. -/
def GoesOn (m : Machine) (i : Instruction) (op : Opcode) (a : Nat) : Prop :=
  match i with
  | .jump | .call => a = op.nnn
  | .jumpOffset => a = op.nnn + m.registers.get Registers.first
  | .ret => ∃ p, m.stack.newestFirst.head? = some p ∧ a = p + 2
  | .awaitKey => a = m.registers.pc.value + if m.KeyDown then 2 else 0
  | _ => a = m.registers.pc.value + if m.skips i op then 4 else 2

/-- An instruction that is carried out on `m` and leaves `m'` keeps within its footprint. -/
structure Footprint (m : Machine) (i : Instruction) (op : Opcode) (m' : Machine) : Prop where
  data : ∀ y, ¬m.Assigns i op y → m'.registers.get y = m.registers.get y
  index : i ∉ [.loadIndex, .addIndex, .pointGlyph, .storeRegisters, .loadRegisters] →
    m'.registers.i = m.registers.i
  ram : ∀ a, ¬m.Stores i op a → m'.ram.get a = m.ram.get a
  screen : i ∉ [.clearScreen, .draw] → m'.screen = m.screen
  display : m'.screen.display = m.screen.display
  stack : i ∉ [.call, .ret] → m'.stack = m.stack
  delay : i ≠ .setDelay → m'.delay = m.delay
  sound : i ≠ .setSound → m'.sound = m.sound
  awaiting : i ≠ .awaitKey → m'.awaiting = m.awaiting
  keys : m'.registers.keys = m.registers.keys
  random : m'.random = if i = .random then m.random.next.2 else m.random
  pc : m.GoesOn i op m'.registers.pc.value

theorem keyDown_of_pressedKey {m : Machine} {key : Fin 16}
    (pressed : m.registers.pressedKey = some key) :
  m.KeyDown
  := by
  use key
  apply ((Registers.pressedKey_eq_some_iff _ key).mp pressed).1

theorem not_keyDown_of_pressedKey {m : Machine} (none : m.registers.pressedKey = none) :
  ¬m.KeyDown
  := by
  rintro ⟨key, down⟩
  rw [(Registers.pressedKey_eq_none_iff _).mp none key] at down
  cases down

/-! ### Data registers -/

theorem get_assign (m : Machine) {x y : Fin 16} (n : Nat) (other : ¬(y = x)) :
  (m.assign x n).registers.get y = m.registers.get y
  := (m.get_withData x y n).trans (if_neg other)

theorem get_assignWithFlag (m : Machine) {x y : Fin 16} (n : Nat) (on : Bool)
    (other : ¬(y = x ∨ y = Registers.flag)) :
  (m.assignWithFlag x n on).registers.get y = m.registers.get y
  := by
  obtain ⟨differ, noFlag⟩ := not_or.mp other
  apply Eq.trans ((m.withData x n).get_withData Registers.flag y on.toNat)
  rw [if_neg noFlag, get_withData, if_neg differ]

theorem get_withSprite (m : Machine) {y : Fin 16} (places : List Nat)
    (noFlag : ¬(y = Registers.flag)) :
  (m.withSprite places).registers.get y = m.registers.get y
  := (m.get_withData Registers.flag y _).trans (if_neg noFlag)

/-- Only the registers that an instruction assigns change. -/
theorem outcome_data (m : Machine) (i : Instruction) (op : Opcode) {y : Fin 16}
    (free : ¬m.Assigns i op y) :
  (m.outcome i op).registers.get y = m.registers.get y
  := by
  cases i with
  | loadByte | addByte | copy | or | and | xor | loadDelay => apply m.get_assign _ free
  | random => apply get_assign _ _ free
  | add | subtract | shiftRight | subtractFrom | shiftLeft => apply m.get_assignWithFlag _ _ free
  | draw => apply m.get_withSprite _ free
  | awaitKey =>
      cases pressed : m.registers.pressedKey with
      | none => rw [outcome_awaitKey_of_none op pressed]
      | some key =>
          rw [outcome_awaitKey_of_some op pressed]
          apply get_assign
          intro same
          exact free ⟨keyDown_of_pressedKey pressed, same⟩
  | loadRegisters =>
      have above : ¬(y.val < op.x.val + 1) := by
        intro below
        exact free (Nat.le_of_lt_succ below)
      exact (m.get_load_take (op.x.val + 1) m.registers.i.value y).trans (if_neg above)
  | _ => rfl

theorem outcome_index (m : Machine) {i : Instruction} (op : Opcode)
    (other : i ∉ [.loadIndex, .addIndex, .pointGlyph, .storeRegisters, .loadRegisters]) :
  (m.outcome i op).registers.i = m.registers.i
  := by
  cases i with
  | loadIndex | addIndex | pointGlyph | storeRegisters | loadRegisters =>
      exact absurd (by decide) other
  | awaitKey =>
      rw [outcome]
      split <;> rfl
  | _ => rfl

theorem outcome_keys (m : Machine) (i : Instruction) (op : Opcode) :
  (m.outcome i op).registers.keys = m.registers.keys
  := by
  cases i with
  | awaitKey =>
      rw [outcome]
      split <;> rfl
  | loadRegisters => exact congrArg (fun m => m.registers.keys) (m.load_eq _ _)
  | _ => rfl

/-! ### The memory -/

theorem get_store_outside (m : Memory .ram) {a k : Nat} {row : List Nat}
    (within : a + row.length ≤ 0x1000) (outside : ¬(a ≤ k ∧ k < a + row.length)) :
  (m.store a row).get k = m.get k
  := (Memory.get_store row m a k within).trans (dif_neg outside)

/-- Only the locations in which an instruction stores change. -/
theorem outcome_ram (m : Machine) (i : Instruction) (op : Opcode) {a : Nat}
    (granted : m.refusal? i op = none) (free : ¬m.Stores i op a) :
  (m.outcome i op).ram.get a = m.ram.get a
  := by
  cases i with
  | storeDigits =>
      have room : ¬(0xfff < m.registers.i.value + 2) := granted_iff.mp granted
      apply get_store_outside
      · show m.registers.i.value + 3 ≤ 0x1000
        omega
      · rintro ⟨begins, ends⟩
        exact free ⟨begins, Nat.le_of_lt_succ ends⟩
  | storeRegisters =>
      have room : ¬(0xfff < m.registers.i.value + op.x.val + 1) := granted_iff.mp granted
      have length : ((Action.registersTo op.x).map m.registers.get).length = op.x.val + 1 := by
        rw [List.length_map, Action.length_registersTo]
      apply get_store_outside
      · rw [length]
        omega
      · rw [length]
        rintro ⟨begins, ends⟩
        exact free ⟨begins, Nat.le_of_lt_succ ends⟩
  | awaitKey =>
      rw [outcome]
      split <;> rfl
  | loadRegisters => exact congrArg (fun ram => ram.get a) (m.load_ram _ _)
  | _ => rfl

/-! ### Random numbers and the program counter -/

/-- One instruction draws a random number. -/
theorem outcome_random (m : Machine) (i : Instruction) (op : Opcode) :
  (m.outcome i op).random = if i = .random then m.random.next.2 else m.random
  := by
  cases i with
  | awaitKey =>
      rw [outcome]
      split <;> rfl
  | loadRegisters => exact congrArg (fun m => m.random) (m.load_eq _ _)
  | _ => rfl

theorem outcome_stack_of_other (m : Machine) {i : Instruction} (op : Opcode)
    (other : i ∉ [.call, .ret]) :
  (m.outcome i op).stack = m.stack
  := by
  apply congrArg CallStack.mk
  apply Eq.trans (m.outcome_stack i op)
  cases i with
  | call | ret => exact absurd (by decide) other
  | _ => rfl

/-- Where the program goes on. -/
theorem outcome_pc (m : Machine) (i : Instruction) (op : Opcode)
    (granted : m.refusal? i op = none) :
  m.GoesOn i op (m.outcome i op).registers.pc.value
  := by
  cases i with
  | ret =>
      have filled : ¬(m.stack.newestFirst = []) := granted_iff.mp granted
      obtain ⟨p, rest, entries⟩ := List.exists_cons_of_ne_nil filled
      use p
      rw [outcome, entries]
      exact ⟨rfl, rfl⟩
  | awaitKey =>
      cases pressed : m.registers.pressedKey with
      | none =>
          rw [outcome_awaitKey_of_none op pressed, GoesOn,
            if_neg (not_keyDown_of_pressedKey pressed)]
          rfl
      | some key =>
          rw [outcome_awaitKey_of_some op pressed, GoesOn, if_pos (keyDown_of_pressedKey pressed)]
          rfl
  | loadRegisters =>
      exact congrArg (fun m => m.registers.pc.value + 2) (m.load_eq _ _)
  | _ => rfl

/-- An instruction that is carried out keeps within its footprint. -/
theorem footprint_outcome (m : Machine) (i : Instruction) (op : Opcode)
    (granted : m.refusal? i op = none) :
  m.Footprint i op (m.outcome i op)
  where
  data _ free := m.outcome_data i op free
  index other := m.outcome_index op other
  ram _ free := m.outcome_ram i op granted free
  screen other := m.outcome_screen op other
  display := m.outcome_display i op
  stack other := m.outcome_stack_of_other op other
  delay other := m.outcome_delay op other
  sound other := m.outcome_sound op other
  awaiting other := m.outcome_awaiting op other
  keys := m.outcome_keys i op
  random := m.outcome_random i op
  pc := m.outcome_pc i op granted

end Machine

namespace Processor

/-! ### Steps -/

/-- A step that succeeds carries out the instruction of the word at the program counter, and this
instruction keeps within its footprint. -/
theorem footprint_step {c d : Processor} (h : c.machine.InBounds) (carried : c.step = .ok () d) :
  ∃ w i, Machine.fetch c.machine = .ok w c.machine ∧ Instruction.accepts i w = true ∧
    d.progress = ⟨c.machine.registers.pc.value, some w, some i⟩ ∧
    d = { c with machine := d.machine, progress := d.progress, journal := d.journal } ∧
    c.machine.Footprint i (.ofWord w) d.machine
  := by
  rw [step_eq h] at carried
  obtain ⟨sound, rfl⟩ := ending_eq_ok_iff.mp carried
  obtain ⟨i, found, stepped⟩ := Machine.stepped_of_sound sound
  obtain ⟨inside, known⟩ := Machine.next?_eq_some found
  obtain ⟨fetched, -⟩ := Machine.next?_of_inside inside
  have granted : c.machine.refusal? i (.ofWord c.machine.word) = none := by
    rw [← Machine.fault?_of_next? found, sound]
  use c.machine.word, i, Machine.fetch_eq_ok h.ram inside
  use (Instruction.ofWord?_eq_some_iff _ i).mp known
  constructor
  · rw [stepped_progress, fetched, found]
  constructor
  · rw [Processor.stepped, aware_eq]
  · show c.machine.Footprint i _ c.machine.stepped
    rw [stepped]
    apply c.machine.footprint_outcome i _ granted

/-! ### Random numbers of a run -/

/-- A request either executes no instruction, and then draws no number, or it leaves the data
registers and the source as the instruction that it executes. -/
theorem request_outcome {c : Processor} (h : c.machine.InBounds) (r : Request) :
  (c.executed? r = none ∧ (c.after r).machine.random = c.machine.random) ∨
    ∃ i, c.executed? r = some ⟨c.machine.registers.pc.value, i⟩ ∧
      (c.after r).machine.random = (c.machine.outcome i (.ofWord c.machine.word)).random ∧
      (c.after r).machine.registers.data =
        (c.machine.outcome i (.ofWord c.machine.word)).registers.data
  := by
  cases r with
  | publish states =>
      left
      rw [after_publish]
      exact ⟨rfl, rfl⟩
  | tick =>
      rcases tick_cases h with ⟨e, fault, -, idle, after⟩ | ⟨i, -, -, carried, -, executed, after⟩
      · left
        rw [after]
        exact ⟨idle, (Machine.abandoned_stepped h fault).random⟩
      · right
        obtain ⟨keys, served⟩ := served_machine c.stepped
        use i, executed
        rw [after, served, carried]
        exact ⟨rfl, rfl⟩
  | step =>
      rw [after_step h, executed?, serve, step_eq h]
      cases fault : c.machine.fault? with
      | some e =>
          left
          exact ⟨rfl, (Machine.abandoned_stepped h fault).random⟩
      | none =>
          right
          obtain ⟨i, found, carried⟩ := Machine.stepped_of_sound fault
          have left : c.stepped.machine = c.machine.outcome i (.ofWord c.machine.word) := carried
          use i
          rw [ending, carriedOut, stepped_progress, found, left]
          exact ⟨rfl, rfl, rfl⟩

/-- A request advances the source once for each random number that it draws. -/
theorem after_random {c : Processor} (h : c.machine.InBounds) (r : Request) :
  (c.after r).machine.random = c.machine.random.advance (draws (c.executed? r).toList)
  := by
  rcases request_outcome h r with ⟨idle, same⟩ | ⟨i, executed, drawn, -⟩
  · rw [idle, same]
    rfl
  · rw [executed, drawn, Machine.outcome_random, Option.toList_some, draws, List.countP_singleton]
    by_cases random : i = .random
    · rw [if_pos random, if_pos (decide_eq_true random)]
      rfl
    · rw [if_neg random, if_neg (mt of_decide_eq_true random)]
      rfl

/-- A run draws the numbers of its source one after the other. -/
theorem random_play {c : Processor} (h : c.machine.InBounds) (rs : List Request) :
  (c.play rs).machine.random = c.machine.random.advance (draws (c.history rs))
  := by
  induction rs using List.reverseRecOn with
  | nil => rfl
  | append_singleton rs r ih =>
      rw [play_concat, after_random (play_inBounds h rs), ih, ← RandomSource.advance_add,
        history_concat, draws, draws, draws, List.countP_append]

/-- A step that succeeds keeps within the footprint of the instruction whose word it fetched, and
the random numbers that a run loads are those of its source in their order. -/
theorem step_footprint {c : Processor} (h : Reachable c) :
  (∀ d, c.step = .ok () d →
    ∃ w i, Machine.fetch c.machine = .ok w c.machine ∧ Instruction.accepts i w = true ∧
      d.progress = ⟨c.machine.registers.pc.value, some w, some i⟩ ∧
      d = { c with machine := d.machine, progress := d.progress, journal := d.journal } ∧
      c.machine.Footprint i (.ofWord w) d.machine) ∧
    ∀ rs,
      let d := c.play rs
      let drawn := draws (c.history rs)
      d.machine.random = c.machine.random.advance drawn ∧
        ∀ r p, d.executed? r = some ⟨p, .random⟩ →
          (d.after r).machine.registers.get (Opcode.ofWord d.machine.word).x =
            (c.machine.random.number drawn % 256).toNat &&& (Opcode.ofWord d.machine.word).kk
  := by
  have bounds := h.inBounds
  constructor
  · intro d carried
    apply footprint_step bounds carried
  · intro rs d drawn
    have position := random_play bounds rs
    use position
    intro r p executed
    let op := Opcode.ofWord d.machine.word
    rcases request_outcome (play_inBounds bounds rs) r with ⟨idle, -⟩ | ⟨i, executed', -, data⟩
    · cases idle.symm.trans executed
    · cases executed.symm.trans executed'
      have loaded : (d.after r).machine.registers.get op.x =
          (d.machine.outcome .random op).registers.get op.x :=
        congrArg (fun data : Vector Nat 16 => data.get op.x) data
      rw [RandomSource.number, ← position]
      apply loaded.trans
      exact (Machine.get_withData _ op.x op.x _).trans (if_pos rfl)

/-- A processor whose program stores the digits of a random number and then draws another one. -/
def drawingTwice : Processor :=
  (idle (.ofList [7, 300])).booted [0xa3, 0x00, 0xc0, 0xff, 0xf0, 0x33, 0xc1, 0x0f]

/-- Storing digits leaves the address register where it is, and the second number that is drawn is
the second one of the source. -/
theorem step_footprint_digits :
  (∃ d, (drawingTwice.play [.tick, .tick]).step = .ok () d ∧
      (drawingTwice.play [.tick, .tick]).machine.Footprint .storeDigits (.ofWord 0xf033)
        d.machine ∧
      d.machine.registers.i = ⟨0x300⟩) ∧
    (drawingTwice.play [.tick, .tick, .tick]).executed? .tick = some ⟨0x206, .random⟩ ∧
    ((drawingTwice.play [.tick, .tick, .tick]).after .tick).machine.registers.get 1 = 12
  := by
  have reached : Reachable drawingTwice := .boot _ _ (by decide)
  have reached' : Reachable (drawingTwice.play [.tick, .tick]) := reached.play _
  constructor
  · have ready : (drawingTwice.play [.tick, .tick]).machine.fault? = none ∧
        (drawingTwice.play [.tick, .tick]).stepped.progress =
          ⟨0x204, some 0xf033, some .storeDigits⟩ ∧
        (drawingTwice.play [.tick, .tick]).machine.registers.i = ⟨0x300⟩ := by decide +kernel
    obtain ⟨sound, progress, index⟩ := ready
    have carried : (drawingTwice.play [.tick, .tick]).step =
        .ok () (drawingTwice.play [.tick, .tick]).stepped := by
      rw [step_eq reached'.inBounds, sound]
      rfl
    obtain ⟨w, i, -, -, noted, -, footprint⟩ := (step_footprint reached').1 _ carried
    rw [progress] at noted
    injection noted with _ word instruction
    obtain rfl := Option.some.inj word
    obtain rfl := Option.some.inj instruction
    use (drawingTwice.play [.tick, .tick]).stepped, carried, footprint
    rw [footprint.index (by decide), index]
  · have executed : (drawingTwice.play [.tick, .tick, .tick]).executed? .tick =
        some ⟨0x206, .random⟩ := by decide +kernel
    have operands : draws (drawingTwice.history [.tick, .tick, .tick]) = 1 ∧
        Opcode.ofWord (drawingTwice.play [.tick, .tick, .tick]).machine.word =
          .ofWord 0xc10f ∧
        drawingTwice.machine.random.number 1 = 300 := by decide +kernel
    obtain ⟨drawn, operands, number⟩ := operands
    obtain ⟨-, loads⟩ := (step_footprint reached).2 [.tick, .tick, .tick]
    have loaded := loads .tick _ executed
    rw [operands, drawn, number] at loaded
    use executed
    exact loaded

end Processor

end Chip8
