import Chip8.Proofs.Footprint
import Chip8.Proofs.Snapshots

/-!
# Booting erases the past

Whatever a machine holds, booting it leaves nothing but the font, the program, and a redraw that is
scheduled (`Machine.Started`); a program for which there is no room is refused, and then the machine
is left as the empty program leaves it. What remains of the past is the random source and the
display slot. So machines that were booted with the same program, draw the same random numbers and
receive the same keys go through the same states (`Machine.Alike`) and fail for the same faults.
-/

namespace Chip8

namespace Machine

/-! ### What booting leaves -/

/-- What a machine holds after it was booted with a program. -/
structure Started (rom : List UInt8) (m : Machine) : Prop where
  data : ∀ x, m.registers.get x = 0
  index : m.registers.i.value = 0
  pc : m.registers.pc.value = 0x200
  keys : ∀ key, m.registers.keys.get key = false
  stack : m.stack.newestFirst = []
  delay : m.delay.value = 0
  sound : m.sound.value = 0
  pixels : ∀ k, m.screen.vram.get k = 0
  redraw : m.screen.redraw = true
  awaiting : m.awaiting = none
  font : ∀ a < 0x50, m.ram.get a = Chip8.font.getD a 0
  gap : ∀ a, 0x50 ≤ a → a < 0x200 → m.ram.get a = 0
  program : ∀ k < rom.length, m.ram.get (0x200 + k) = (rom.getD k 0).toNat
  rest : ∀ a, 0x200 + rom.length ≤ a → m.ram.get a = 0

/-- The memory that holds nothing but the font. -/
theorem get_font (k : Nat) :
  ((Memory.zeros : Memory .ram).store fontStart font).get k = font.getD k 0
  := by
  have inside : fontStart + font.length ≤ Bank.ram.size := by decide
  have start : fontStart = 0 := rfl
  rw [Memory.get_store _ _ _ _ inside]
  split
  · next within =>
      rw [List.getD_eq_getElem?_getD, List.getElem?_eq_getElem (by omega)]
      rfl
  · next beyond =>
      have beyond' : font.length ≤ k := by omega
      rw [Memory.get_zeros, List.getD_eq_getElem?_getD, List.getElem?_eq_none beyond']
      rfl

theorem booted_started (m : Machine) {rom : List UInt8} (short : rom.length ≤ programRoom) :
  (m.booted rom).Started rom
  := by
  have length : (rom.map fun b => b.toNat).length = rom.length := List.length_map ..
  have inside : programStart + (rom.map fun b => b.toNat).length ≤ Bank.ram.size := by
    rw [length]
    exact Nat.add_le_add_left short programStart
  have byte : ∀ k, (m.booted rom).ram.get k =
      if h : programStart ≤ k ∧ k < programStart + (rom.map fun b => b.toNat).length then
        (rom.map fun b => b.toNat)[k - programStart]
      else font.getD k 0 := by
    intro k
    rw [← get_font]
    exact Memory.get_store _ _ _ _ inside
  have start : programStart = 0x200 := rfl
  have glyphs : font.length = 0x50 := rfl
  constructor
  case font =>
    intro a below
    rw [byte, dif_neg (by omega)]
  case gap =>
    intro a above below
    rw [byte, dif_neg (by omega), List.getD_eq_getElem?_getD, List.getElem?_eq_none (by omega)]
    rfl
  case program =>
    intro k below
    have here : programStart ≤ 0x200 + k ∧
        0x200 + k < programStart + (rom.map fun b => b.toNat).length := by omega
    have offset : 0x200 + k - programStart = k := by omega
    rw [byte, dif_pos here]
    simp only [offset, List.getElem_map, List.getD_eq_getElem?_getD,
      List.getElem?_eq_getElem below, Option.getD_some]
  case rest =>
    intro a above
    rw [byte, dif_neg (by omega), List.getD_eq_getElem?_getD, List.getElem?_eq_none (by omega)]
    rfl
  case data => exact fun x => (by decide : ∀ x, Registers.initial.get x = 0) x
  case keys => exact fun key => (by decide : ∀ key, Registers.initial.keys.get key = false) key
  case pixels => exact Memory.get_zeros
  all_goals rfl

/-- A program for which there is no room is refused after the machine was reset. -/
theorem boot_eq_error (m : Machine) {rom : List UInt8} (long : programRoom < rom.length) :
  boot rom m = .error (.badAddress "RAM" (0x200 + rom.length - 1 : Nat)) (m.booted [])
  := by
  have room : programRoom = 3584 := rfl
  have filled : ¬(rom.map (fun b => (b.toNat : Int)) = []) := by
    rw [List.map_eq_nil_iff]
    rintro rfl
    cases long
  have last : (programStart : Int) + (rom.map fun b => (b.toNat : Int)).length - 1 =
      (0x200 + rom.length - 1 : Nat) := by
    have start : programStart = 0x200 := rfl
    rw [List.length_map]
    omega
  have refused : m.reset.ram.writeBytes programStart (rom.map fun b => (b.toNat : Int)) =
      .error (.badAddress "RAM" (0x200 + rom.length - 1 : Nat)) := by
    have beyond : Bank.ram.size ≤ 0x200 + rom.length - 1 := by
      show 0x1000 ≤ _
      omega
    rw [Memory.writeBytes, if_neg filled, Memory.bytesFor, Memory.checkAddress_eq_ok (by decide),
      last, Memory.checkAddress_eq_error beyond]
    rfl
  have left : m.booted [] = m.reset := by rw [booted, List.map_nil, Memory.store]
  rw [boot, bind_of_ok (modify_apply reset m), left]
  apply Action.change_eq_error
  apply Eq.trans (congrArg (· >>= _) refused)
  rfl

/-! ### Machines that differ in what remains of the past -/

/-- Two machines agree but for the display slot, and their sources yield the same numbers. -/
structure Alike (m m' : Machine) : Prop where
  registers : m'.registers = m.registers
  ram : m'.ram = m.ram
  pixels : m'.screen.vram = m.screen.vram
  redraw : m'.screen.redraw = m.screen.redraw
  stack : m'.stack = m.stack
  delay : m'.delay = m.delay
  sound : m'.sound = m.sound
  awaiting : m'.awaiting = m.awaiting
  numbers : ∀ n, m'.random.number n = m.random.number n

/-- The machine with another display slot and another source. -/
def varied (m : Machine) (display : Latest Frame) (random : RandomSource) : Machine :=
  { m with screen := { m.screen with display := display }, random := random }

theorem Alike.eq_varied {m m' : Machine} (h : m.Alike m') :
  m' = m.varied m'.screen.display m'.random
  := by
  obtain ⟨ram, ⟨vram, display, redraw⟩, registers, stack, delay, sound, random, awaiting⟩ := m'
  obtain ⟨rfl, rfl, rfl, rfl, rfl, rfl, rfl, rfl, -⟩ := h
  rfl

/-- The display slot and the source are all that booting leaves of the past. -/
theorem booted_varied (m m' : Machine) (rom : List UInt8) :
  m'.booted rom = (m.booted rom).varied m'.screen.display m'.random
  := by
  rw [booted, booted, reset, reset]
  rfl

theorem alike_varied (m : Machine) (display : Latest Frame) {random : RandomSource}
    (numbers : ∀ n, random.number n = m.random.number n) :
  m.Alike (m.varied display random)
  := by
  constructor
  case numbers => exact numbers
  all_goals rfl

section

variable (m : Machine) (display : Latest Frame) (random : RandomSource)

theorem load_varied (xs : List (Fin 16)) (a : Nat) :
  (m.varied display random).load xs a = (m.load xs a).varied display random
  := by
  induction xs generalizing m a with
  | nil => rfl
  | cons x xs ih => apply ih (m.withData x (m.ram.get a))

/-- An instruction neither looks at the display slot nor at more of the source than the next
number. -/
theorem outcome_varied (next : random.next.1 = m.random.next.1) (i : Instruction) (op : Opcode) :
  (m.varied display random).outcome i op =
    (m.outcome i op).varied display (if i = .random then random.next.2 else random)
  := by
  cases i with
  | random =>
      show assign _ op.x ((random.next.1 % 256).toNat &&& op.kk) = _
      rw [next]
      rfl
  | awaitKey =>
      cases pressed : m.registers.pressedKey with
      | none =>
          rw [outcome_awaitKey_of_none op pressed]
          exact outcome_awaitKey_of_none op pressed
      | some key =>
          rw [outcome_awaitKey_of_some op pressed]
          exact outcome_awaitKey_of_some op pressed
  | loadRegisters =>
      have loaded := m.load_varied display random (Action.registersTo op.x) m.registers.i.value
      exact congrArg (fun m' : Machine =>
        (m'.withIndex (m.registers.i.value + op.x.val + 1)).forward 2) loaded
  | _ => rfl

theorem remnant_varied (i : Instruction) (op : Opcode) :
  (m.varied display random).remnant i op = (m.remnant i op).varied display random
  := by
  cases i with
  | loadRegisters =>
      have loaded := m.load_varied display random
        ((Action.registersTo op.x).take (0x1000 - m.registers.i.value)) m.registers.i.value
      exact congrArg (fun m' : Machine => m'.withIndex 0xfff) loaded
  | _ => rfl

end

section

variable {m m' : Machine} (h : m.Alike m')

include h

theorem Alike.next? :
  m'.next? = m.next?
  := by
  rw [h.eq_varied]
  rfl

theorem Alike.refusal? (i : Instruction) (op : Opcode) :
  m'.refusal? i op = m.refusal? i op
  := by
  rw [h.eq_varied]
  cases i <;> rfl

theorem Alike.word :
  m'.word = m.word
  := by rw [Machine.word, Machine.word, h.ram, h.registers]

theorem Alike.fault? :
  m'.fault? = m.fault?
  := by
  rw [Machine.fault?, Machine.fault?, h.word, h.registers]
  split
  · rfl
  · split
    · rfl
    · apply h.refusal?

theorem Alike.outcome (i : Instruction) (op : Opcode) :
  (m.outcome i op).Alike (m'.outcome i op)
  := by
  have next : m'.random.next.1 = m.random.next.1 := h.numbers 0
  rw [h.eq_varied, outcome_varied m _ _ next]
  apply alike_varied
  intro n
  rw [m.outcome_random]
  split
  · rw [RandomSource.number_next, RandomSource.number_next, h.numbers]
  · apply h.numbers

theorem Alike.remnant (i : Instruction) (op : Opcode) :
  (m.remnant i op).Alike (m'.remnant i op)
  := by
  rw [h.eq_varied, remnant_varied]
  apply alike_varied
  intro n
  rw [m.remnant_eq]
  apply h.numbers

/-- Steps of machines that are alike leave machines that are alike. -/
theorem Alike.stepped :
  m.stepped.Alike m'.stepped
  := by
  rw [Machine.stepped, Machine.stepped, h.next?]
  split
  · exact h
  · rw [h.word, h.refusal?]
    split
    · apply h.outcome
    · apply h.remnant

end

end Machine

/-- The fault with which an action ends, if it fails. -/
def failure? {α : Type} : EStateM.Result Fault Processor α → Option Fault
  | .ok _ _ => none
  | .error e _ => some e

namespace Processor

theorem failure?_ending (fault : Option Fault) (good bad : Processor) :
  failure? (ending fault good bad) = fault
  := by
  cases fault with
  | none => rfl
  | some e => rfl

/-- A tick fails for the fault of the machine. -/
theorem failure?_tick {c : Processor} (bounds : c.machine.InBounds) :
  failure? c.tick = c.machine.fault?
  := by rw [tick_eq bounds, failure?_ending]

/-! ### Runs after booting -/

/-- A program for which there is no room leaves the processor as the empty program does. -/
theorem booted_of_long (c : Processor) {rom : List UInt8}
    (long : Machine.programRoom < rom.length) :
  c.booted rom = c.booted []
  := by
  rw [booted, onMachine_of_error (c.machine.boot_eq_error long), booted_eq c (Nat.zero_le _)]
  rfl

/-- Booting leads to a reachable state, whatever the program. -/
theorem reachable_booted (c : Processor) (rom : List UInt8) :
  Reachable (c.booted rom)
  := by
  by_cases short : rom.length ≤ Machine.programRoom
  · exact .boot c rom short
  · rw [c.booted_of_long (Nat.lt_of_not_le short)]
    exact .boot c [] (Nat.zero_le _)

/-- The machines of two processors are alike, and the same snapshot waits for them. -/
structure Alike (c c' : Processor) : Prop where
  machine : c.machine.Alike c'.machine
  waiting : c'.waiting? = c.waiting?

namespace Alike

variable {c c' : Processor} (h : c.Alike c')

include h

theorem stepped :
  c.stepped.Alike c'.stepped
  := by
  use h.machine.stepped
  have kept : ∀ d : Processor, d.stepped.waiting? = d.waiting? := by
    intro d
    rw [Processor.stepped, aware_eq]
    rfl
  rw [kept, kept, h.waiting]

theorem presented :
  c.presented.Alike c'.presented
  := by
  rw [Processor.presented, Processor.presented, h.machine.redraw]
  split
  · exact ⟨{ h.machine with redraw := rfl }, h.waiting⟩
  · exact h

theorem delayed :
  c.delayed.Alike c'.delayed
  := by
  have delay : c'.delayed.machine.delay = c.delayed.machine.delay := by
    rw [Processor.delayed, Processor.delayed, h.machine.delay]
  exact ⟨{ h.machine with delay := delay }, h.waiting⟩

theorem buzzed :
  c.buzzed.Alike c'.buzzed
  := by
  rw [Processor.buzzed, Processor.buzzed, h.machine.sound]
  split
  · exact ⟨{ h.machine with sound := rfl }, h.waiting⟩
  · exact ⟨h.machine, h.waiting⟩

theorem readKeys :
  c.readKeys.Alike c'.readKeys
  := by
  have empty : ∀ d : Processor, d.readKeys.waiting? = none := by
    intro d
    rw [readKeys_eq]
    exact Latest.pending?_take d.keyChannel.slot
  have registers : c'.readKeys.machine.registers = c.readKeys.machine.registers := by
    rw [readKeys_eq, readKeys_eq, h.waiting]
    show { c'.machine.registers with keys := c.waiting?.getD c'.machine.registers.keys } = _
    rw [h.machine.registers]
    rfl
  constructor
  · rw [readKeys_eq, readKeys_eq] at registers ⊢
    exact { h.machine with registers := registers }
  · rw [empty, empty]

theorem served :
  c.served.Alike c'.served
  := by
  have read := h.presented.delayed.buzzed.readKeys
  exact ⟨read.machine, read.waiting⟩

variable (bounds : c.machine.InBounds) (bounds' : c'.machine.InBounds)

include bounds bounds'

/-- Requests to processors that are alike leave processors that are alike. -/
theorem after (r : Request) :
  (c.after r).Alike (c'.after r)
  := by
  cases r with
  | step =>
      rw [after_step bounds, after_step bounds']
      apply h.stepped
  | tick =>
      rw [after_tick bounds, after_tick bounds', h.machine.fault?]
      split
      · apply h.stepped.served
      · apply h.stepped
  | publish states =>
      show (left (c.publish states)).Alike (left (c'.publish states))
      rw [publish_eq, publish_eq]
      cases KeySnapshot.ofList? states with
      | some keys => exact ⟨h.machine, rfl⟩
      | none => exact h

/-- Requests to processors that are alike fail for the same faults. -/
theorem failure? (r : Request) :
  Chip8.failure? (c'.serve r) = Chip8.failure? (c.serve r)
  := by
  cases r with
  | step =>
      rw [serve, step_eq bounds, step_eq bounds', failure?_ending, failure?_ending]
      apply h.machine.fault?
  | tick =>
      rw [serve, failure?_tick bounds, failure?_tick bounds']
      apply h.machine.fault?
  | publish states =>
      rw [serve, publish_eq, publish_eq]
      cases KeySnapshot.ofList? states with
      | some keys => rfl
      | none => rfl

theorem play (rs : List Request) :
  (c.play rs).Alike (c'.play rs)
  := by
  induction rs using List.reverseRecOn with
  | nil => exact h
  | append_singleton rs r ih =>
      rw [play_concat, play_concat]
      apply ih.after (play_inBounds bounds rs) (play_inBounds bounds' rs)

end Alike

/-- The machines of processors that boot the same program are alike. -/
theorem machine_booted {c c' : Processor}
    (numbers : ∀ n, c'.machine.random.number n = c.machine.random.number n) (rom : List UInt8) :
  (c.booted rom).machine.Alike (c'.booted rom).machine
  := by
  have fitting : ∀ rom : List UInt8, rom.length ≤ Machine.programRoom →
      (c.booted rom).machine.Alike (c'.booted rom).machine := by
    intro rom short
    rw [booted_eq c short, booted_eq c' short]
    show (c.machine.booted rom).Alike (c'.machine.booted rom)
    rw [c.machine.booted_varied c'.machine]
    apply Machine.alike_varied
    rw [Machine.booted, Machine.reset]
    exact numbers
  by_cases short : rom.length ≤ Machine.programRoom
  · apply fitting rom short
  · have long := Nat.lt_of_not_le short
    rw [c.booted_of_long long, c'.booted_of_long long]
    apply fitting [] (Nat.zero_le _)

/-- Processors for which no snapshot waits are alike after booting the same program. -/
theorem alike_booted {c c' : Processor} (empty : c.waiting? = none) (empty' : c'.waiting? = none)
    (numbers : ∀ n, c'.machine.random.number n = c.machine.random.number n) (rom : List UInt8) :
  (c.booted rom).Alike (c'.booted rom)
  := by
  use machine_booted numbers rom
  have kept : ∀ d : Processor, (d.booted rom).waiting? = d.waiting? := by
    intro d
    rw [waiting?, (Ticking.keys_booted d rom).2, waiting?]
  rw [kept, kept, empty, empty']

/-- Booting erases the past of every machine, and a program for which there is no room is refused
without any byte of it. So processors that boot the same program go through the same states and fail
for the same faults, if they draw the same random numbers and receive the same snapshots. -/
theorem boot_erases (rom : List UInt8) :
  (rom.length ≤ 3584 → ∀ m : Machine, ∃ m', Machine.boot rom m = .ok () m' ∧ m'.Started rom) ∧
    (3584 < rom.length → ∀ m : Machine, ∃ m', Machine.boot [] m = .ok () m' ∧ m'.Started [] ∧
      Machine.boot rom m = .error (.badAddress "RAM" (0x200 + rom.length - 1 : Nat)) m') ∧
    ∀ c c' : Processor, c.waiting? = none → c'.waiting? = none →
      (∀ n, c'.machine.random.number n = c.machine.random.number n) →
      ∀ rs : List Request,
        let d := (c.booted rom).play rs
        let d' := (c'.booted rom).play rs
        d.machine.Alike d'.machine ∧ ∀ r, failure? (d'.serve r) = failure? (d.serve r)
  := by
  constructor
  · intro short m
    use m.booted rom, m.boot_eq_ok short
    apply m.booted_started short
  constructor
  · intro long m
    use m.booted [], m.boot_eq_ok (Nat.zero_le _), m.booted_started (Nat.zero_le _)
    apply m.boot_eq_error long
  · intro c c' empty empty' numbers rs d d'
    have bounds := (reachable_booted c rom).inBounds
    have bounds' := (reachable_booted c' rom).inBounds
    have alike := (alike_booted empty empty' numbers rom).play bounds bounds' rs
    use alike.machine
    intro r
    apply alike.failure? (play_inBounds bounds rs) (play_inBounds bounds' rs)

/-- A processor whose program drew a random number, called a routine and failed there. -/
def failedOnce : Processor :=
  ((idle (.ofList [7])).booted [0xc0, 0xff, 0x22, 0x04, 0x00, 0x00]).play [.tick, .tick, .tick]

theorem number_constant (a : Int) (used n : Nat) :
  (RandomSource.script [a] used).number n = a
  := by
  have drawn : (RandomSource.script [a] used).advance n = .script [a] (used + n) := by
    induction n with
    | zero => rfl
    | succ n ih =>
        rw [RandomSource.advance, ih]
        rfl
  rw [RandomSource.number, drawn]
  show [a].getD ((used + n) % 1) 0 = a
  rw [Nat.mod_one]
  rfl

/-- A processor that failed draws the same number after it was booted again as a new one does, and
refuses a program that is one byte too long. -/
theorem boot_erases_failed :
  failedOnce.machine.stack.newestFirst = [0x202] ∧
    (((failedOnce.booted [0xc1, 0x0f]).play [.tick]).machine.registers.data =
      (((idle (.ofList [7])).booted [0xc1, 0x0f]).play [.tick]).machine.registers.data) ∧
    failure? ((failedOnce.booted [0xc1, 0x0f]).play [.tick]).tick = some (.unknownWord 0) ∧
    ∃ m, Machine.boot (List.replicate 3585 1) failedOnce.machine =
        .error (.badAddress "RAM" 0x1000) m ∧ m.Started []
  := by
  have past : failedOnce.machine.stack.newestFirst = [0x202] ∧ failedOnce.waiting? = none ∧
      failedOnce.machine.random = .script [7] 1 := by decide +kernel
  obtain ⟨called, empty, drawn⟩ := past
  have fresh : failure? (((idle (.ofList [7])).booted [0xc1, 0x0f]).play [.tick]).tick =
      some (.unknownWord 0) := by decide +kernel
  have numbers : ∀ n, failedOnce.machine.random.number n =
      (idle (.ofList [7])).machine.random.number n := by
    intro n
    rw [drawn, number_constant]
    exact (number_constant 7 0 n).symm
  obtain ⟨-, -, again⟩ := boot_erases [0xc1, 0x0f]
  obtain ⟨alike, failures⟩ := again (idle (.ofList [7])) failedOnce rfl empty numbers [.tick]
  obtain ⟨-, refuses, -⟩ := boot_erases (List.replicate 3585 1)
  have length : (List.replicate 3585 (1 : UInt8)).length = 3585 := List.length_replicate
  obtain ⟨m, -, started, refused⟩ := refuses (by rw [length]; decide) failedOnce.machine
  use called
  constructor
  · rw [alike.registers]
  constructor
  · exact (failures .tick).trans fresh
  · rw [length] at refused
    exact ⟨m, refused, started⟩

end Processor

end Chip8
