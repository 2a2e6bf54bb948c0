import Chip8.Processor.Run
import Chip8.Proofs.Reachable

/-!
# Failing ticks

A tick of a reachable processor fails exactly for the fault that its machine has, and a run that
makes such ticks either ends, or is halted for one of these faults, or cannot wait for the next
tick. What a failing tick leaves is
told part by part (`Machine.Abandoned`): only the instructions that transfer several bytes or rows
change anything, and they did exactly what lies within the memory.
-/

namespace Chip8

namespace Processor

/-! ### Runs -/

/-- A wait changes nothing, and it is refused only if it is too long. -/
theorem wait_eq_error_iff {c d : Processor} {b : Breakdown} :
  c.wait = .error b d ↔
    c.stopRequested = false ∧ c.canWait = false ∧ b = .endlessWait ∧ d = c
  := by
  rw [wait]
  cases c.stopRequested <;> cases c.canWait <;> simp [eq_comm]

theorem wait_eq_ok_iff {c d : Processor} :
  c.wait = .ok () d ↔ (c.stopRequested = true ∨ c.canWait = true) ∧ d = c
  := by
  rw [wait]
  cases c.stopRequested <;> cases c.canWait <;> simp [eq_comm]

theorem tickUpTo_succ (n : Nat) (c : Processor) :
  tickUpTo (n + 1) c =
    if c.stopRequested then .ok () c
    else
      match c.lap with
      | .ok _ d => tickUpTo n d
      | .error b d => .error b d
  := by
  rw [tickUpTo, bind_of_ok (get_apply c)]
  cases c.stopRequested with
  | true => rfl
  | false =>
      cases ended : c.lap with
      | ok u d => apply bind_of_ok ended
      | error b d => apply bind_of_error ended

/-- A lap breaks down in its tick, or in the wait after its tick. -/
theorem lap_eq_error_iff {c d : Processor} {b : Breakdown} :
  c.lap = .error b d ↔
    (∃ e, c.tick = .error e d ∧ b = d.breakdownFor e) ∨
      c.tick = .ok () d ∧ d.stopRequested = false ∧ d.canWait = false ∧ b = .endlessWait
  := by
  rw [lap]
  cases ticked : c.tick with
  | error e' d' =>
      constructor
      · rintro ⟨⟩
        exact .inl ⟨e', rfl, rfl⟩
      · rintro (⟨e, ⟨⟩, rfl⟩ | ⟨⟨⟩, -⟩)
        rfl
  | ok x d' =>
      dsimp only
      rw [wait_eq_error_iff]
      constructor
      · rintro ⟨clear, far, rfl, rfl⟩
        exact .inr ⟨rfl, clear, far, rfl⟩
      · rintro (⟨e, ⟨⟩, -⟩ | ⟨⟨⟩, clear, far, rfl⟩)
        exact ⟨clear, far, rfl, rfl⟩

theorem lap_eq_ok_iff {c d : Processor} :
  c.lap = .ok () d ↔ c.tick = .ok () d ∧ (d.stopRequested = true ∨ d.canWait = true)
  := by
  rw [lap]
  cases ticked : c.tick with
  | error e' d' => exact ⟨nofun, nofun⟩
  | ok x d' =>
      dsimp only
      rw [wait_eq_ok_iff]
      constructor
      · rintro ⟨near, rfl⟩
        exact ⟨rfl, near⟩
      · rintro ⟨⟨⟩, near⟩
        exact ⟨near, rfl⟩

/-- A row of laps breaks down only by a halt, or where the next tick is too far away. -/
theorem tickUpTo_error {n : Nat} {c d : Processor} {b : Breakdown} (h : c.machine.InBounds)
    (broken : tickUpTo n c = .error b d) :
  (∃ halt, b = .halt halt ∧ halt.cause.isHalting = true) ∨ b = .endlessWait ∧ d.canWait = false
  := by
  induction n generalizing c with
  | zero => cases broken
  | succ n ih =>
      have key := tick_eq h
      rw [tickUpTo_succ] at broken
      split at broken
      · cases broken
      · cases ended : c.lap with
        | ok x m =>
            rw [ended] at broken
            rw [(lap_eq_ok_iff.mp ended).1] at key
            obtain ⟨-, rfl⟩ := ending_eq_ok_iff.mp key.symm
            apply ih (served_inBounds (stepped_inBounds h)) broken
        | error b' m =>
            rw [ended] at broken
            cases broken
            rcases lap_eq_error_iff.mp ended with ⟨e, ticked, rfl⟩ | ⟨-, -, far, endless⟩
            · left
              rw [ticked] at key
              have halting := (Machine.fault?_kind (ending_eq_error_iff.mp key.symm).1).1
              rw [breakdownFor, if_pos halting]
              exact ⟨_, rfl, halting⟩
            · exact .inr ⟨endless, far⟩

theorem conclude_error {before n : Nat} {c d : Processor} {b : Breakdown} (h : c.machine.InBounds)
    (broken : conclude before (tickUpTo n c) = (.error b, d)) :
  (∃ halt, b = .halt halt ∧ halt.cause.isHalting = true) ∨ b = .endlessWait ∧ d.canWait = false
  := by
  cases ended : tickUpTo n c with
  | ok u d' => rw [ended] at broken; cases broken
  | error b' d' =>
      rw [ended] at broken
      cases broken
      rcases tickUpTo_error h ended with halted | ⟨rfl, far⟩
      · exact .inl halted
      · exact .inr ⟨rfl, far⟩

/-- A tick fails exactly for the fault of the machine, nothing fails after its step, and runs break
down for no other faults, unless they come to a tick after which the next one is too far away. -/
theorem tick_fails_iff {c : Processor} (h : Reachable c) :
  (∀ e, (∃ d, c.tick = .error e d) ↔ c.machine.fault? = some e) ∧
    (∀ d, c.step = .ok () d → ∃ d', c.tick = .ok () d') ∧
    (∀ e, c.machine.fault? = some e → e.isHalting = true) ∧
    (∀ limit b d, c.run limit = (.error b, d) →
      (∃ halt, b = .halt halt ∧ halt.cause.isHalting = true) ∨
        b = .endlessWait ∧ d.canWait = false) ∧
    ∀ fuel b d, c.runToEnd? fuel = some (.error b, d) →
      (∃ halt, b = .halt halt ∧ halt.cause.isHalting = true) ∨
        b = .endlessWait ∧ d.canWait = false
  := by
  have bounds := h.inBounds
  constructor
  · intro e
    constructor
    · rintro ⟨d, failed⟩
      rw [tick_eq bounds] at failed
      apply (ending_eq_error_iff.mp failed).1
    · intro fault
      use c.stepped
      apply tick_of_fault bounds fault
  constructor
  · intro d carried
    rw [step_eq bounds] at carried
    obtain ⟨sound, -⟩ := ending_eq_ok_iff.mp carried
    use c.stepped.served
    rw [tick_eq bounds]
    apply ending_eq_ok_iff.mpr ⟨sound, rfl⟩
  constructor
  · intro e fault
    apply (Machine.fault?_kind fault).1
  constructor
  · intro limit b d broken
    apply @conclude_error c.ticks limit c.started d b bounds broken
  · intro fuel b d broken
    obtain ⟨-, concluded⟩ := Option.ite_none_right_eq_some.mp broken
    apply @conclude_error c.ticks fuel c.started d b bounds (Option.some.inj concluded)

/-- A return without a call fails. -/
theorem tick_fails_iff_return :
  let c := (idle (.ofList [7])).booted [0x00, 0xee]
  Reachable c ∧ ∃ d, c.tick = .error .stackUnderflow d
  := by
  intro c
  have reached : Reachable c := .boot _ _ (by decide)
  have fault : c.machine.fault? = some .stackUnderflow := by decide +kernel
  exact ⟨reached, ((tick_fails_iff reached).1 _).mpr fault⟩

/-- A processor whose ticks are further apart than its clock can wait, before its machine is
booted. -/
def drowsy : Processor :=
  { idle (.ofList [7]) with interval := some (Floating.ofDecimal 1 300).reciprocal }

/-- A run may end without a halt though it fails: all ticks succeed, but the next one is too far
away. -/
theorem run_not_halted :
  ofMachine (.initial (.ofList [7])) false (.floating (.ofDecimal 1 300)) .instant = .ok drowsy ∧
    Reachable (drowsy.booted [0x00, 0xe0]) ∧
    ((drowsy.booted [0x00, 0xe0]).run 2).1 = .error .endlessWait ∧
    ((drowsy.booted [0x00, 0xe0]).run 2).2.ticks = 1
  := by
  have interval : (Rate.floating (.ofDecimal 1 300)).interval = .ok drowsy.interval := by
    decide +kernel
  constructor
  · rw [ofMachine, interval]
    rfl
  · exact ⟨.boot _ _ (by decide), by decide +kernel, by decide +kernel⟩

end Processor

/-! ### What a failing tick leaves -/

namespace Machine

/-- The byte at an address after an instruction failed: digits and registers were stored up to the
last address. -/
def byteLeft (m : Machine) (i : Option Instruction) (k : Nat) : Nat :=
  match i with
  | some .storeDigits =>
      if m.registers.i.value ≤ k then
        (digits (m.registers.get (Opcode.ofWord m.word).x)).getD (k - m.registers.i.value) 0
      else m.ram.get k
  | some .storeRegisters =>
      if m.registers.i.value ≤ k then m.registers.values.getD (k - m.registers.i.value) 0
      else m.ram.get k
  | _ => m.ram.get k

/-- The contents of a data register after an instruction failed: the flag was cleared before the
sprite was drawn, and registers were loaded up to the last address. -/
def dataLeft (m : Machine) (i : Option Instruction) (y : Fin 16) : Nat :=
  match i with
  | some .draw => if y = Registers.flag then 0 else m.registers.get y
  | some .loadRegisters =>
      if m.registers.i.value + y.val ≤ 0xfff then m.ram.get (m.registers.i.value + y.val)
      else m.registers.get y
  | _ => m.registers.get y

/-- The address register after an instruction failed: it moved on to the last address. -/
def indexLeft (m : Machine) (i : Option Instruction) : Nat :=
  match i with
  | some .storeRegisters | some .loadRegisters => 0xfff
  | _ => m.registers.i.value

/-- The pixel in a column and a row after an instruction failed: the rows of the sprite up to the
last address were drawn. -/
def pixelLeft (m : Machine) (i : Option Instruction) (px py : Nat) : Nat :=
  match i with
  | some .draw =>
      if spriteCovers m.ram (m.registers.get (Opcode.ofWord m.word).x)
          (m.registers.get (Opcode.ofWord m.word).y) m.registers.i.value
          (0x1000 - m.registers.i.value) px py then
        m.screen.vram.get (py * 64 + px) ^^^ 1
      else m.screen.vram.get (py * 64 + px)
  | _ => m.screen.vram.get (py * 64 + px)

/-- The machine `m'` is left when `m` fails while `i` is to be executed, if it is known. -/
structure Abandoned (m : Machine) (i : Option Instruction) (m' : Machine) : Prop where
  pc : m'.registers.pc = m.registers.pc
  stack : m'.stack = m.stack
  delay : m'.delay = m.delay
  sound : m'.sound = m.sound
  keys : m'.registers.keys = m.registers.keys
  awaiting : m'.awaiting = m.awaiting
  redraw : m'.screen.redraw = m.screen.redraw
  display : m'.screen.display = m.screen.display
  random : m'.random = m.random
  bytes : ∀ k < 0x1000, m'.ram.get k = m.byteLeft i k
  data : ∀ y, m'.registers.get y = m.dataLeft i y
  index : m'.registers.i.value = m.indexLeft i
  pixels : ∀ px < 64, ∀ py < 32, m'.screen.vram.get (py * 64 + px) = m.pixelLeft i px py
  whole : i ∉ [some .draw, some .storeDigits, some .storeRegisters, some .loadRegisters] → m' = m

theorem abandoned_none (m : Machine) :
  m.Abandoned none m
  := by
  constructor <;> intros <;> rfl

/-- A refused instruction keeps all parts but the memory, the pixels, the data registers and the
address register. -/
theorem remnant_eq (m : Machine) (i : Instruction) (op : Opcode) :
  m.remnant i op =
    { m with
      ram := (m.remnant i op).ram
      screen := { m.screen with vram := (m.remnant i op).screen.vram }
      registers := { m.registers with
        data := (m.remnant i op).registers.data
        i := (m.remnant i op).registers.i } }
  := by
  cases i with
  | loadRegisters =>
      rw [remnant, load_eq]
      rfl
  | _ => rfl

/-- The registers up to one have their contents in the row of all of them. -/
theorem getD_registersTo (r : Registers) (x : Fin 16) {k : Nat} (h : k ≤ x.val) :
  ((Action.registersTo x).map r.get).getD k 0 = r.values.getD k 0
  := by
  have member : k < (Action.registersTo x).length := by
    rw [Action.length_registersTo]
    omega
  have index : k < r.values.length := by
    rw [Registers.values, Vector.length_toList]
    omega
  rw [List.getD_eq_getElem?_getD, List.getElem?_map, List.getElem?_eq_getElem member,
    List.getD_eq_getElem?_getD, List.getElem?_eq_getElem index]
  apply Eq.trans _ (Vector.getElem_toList _).symm
  show r.data[((Action.registersTo x)[k]).val] = _
  simp only [Action.getElem_registersTo]

section

variable {m : Machine} (index : m.registers.i.value ≤ 0xfff) {i : Instruction} {e : Fault}
  (refused : m.refusal? i (.ofWord m.word) = some e)

include index refused

theorem get_remnant_ram {k : Nat} (hk : k < 0x1000) :
  (m.remnant i (.ofWord m.word)).ram.get k = m.byteLeft (some i) k
  := by
  cases i with
  | storeDigits =>
      obtain ⟨beyond, -⟩ := Option.ite_none_right_eq_some.mp refused
      have long : 0x1000 ≤ m.registers.i.value +
          (digits (m.registers.get (Opcode.ofWord m.word).x)).length := by
        rw [digits, List.length_cons, List.length_cons, List.length_singleton]
        omega
      apply m.ram.get_store_take (Nat.le_succ_of_le index) long hk
  | storeRegisters =>
      obtain ⟨beyond, -⟩ := Option.ite_none_right_eq_some.mp refused
      have long : 0x1000 ≤ m.registers.i.value +
          ((Action.registersTo (Opcode.ofWord m.word).x).map m.registers.get).length := by
        rw [List.length_map, Action.length_registersTo]
        omega
      have key := m.ram.get_store_take (Nat.le_succ_of_le index) long hk
      rw [← List.map_take] at key
      apply Eq.trans key
      rw [byteLeft]
      split
      · apply getD_registersTo
        omega
      · rfl
  | loadRegisters =>
      have key := m.load_ram ((Action.registersTo (Opcode.ofWord m.word).x).take
        (0x1000 - m.registers.i.value)) m.registers.i.value
      exact congrArg (fun r => r.get k) key
  | _ => rfl

theorem get_remnant_registers (y : Fin 16) :
  (m.remnant i (.ofWord m.word)).registers.get y = m.dataLeft (some i) y
  := by
  cases i with
  | draw => apply m.get_withData Registers.flag y 0
  | loadRegisters =>
      obtain ⟨beyond, -⟩ := Option.ite_none_right_eq_some.mp refused
      have prefixes : (Action.registersTo (Opcode.ofWord m.word).x).take
          (0x1000 - m.registers.i.value) =
          (List.finRange 16).take (0x1000 - m.registers.i.value) := by
        rw [Action.registersTo, List.take_take, Nat.min_eq_left (by omega)]
      have same : y.val < 0x1000 - m.registers.i.value ↔ m.registers.i.value + y.val ≤ 0xfff := by
        omega
      have key := m.get_load_take (0x1000 - m.registers.i.value) m.registers.i.value y
      simp only [same] at key
      rw [← prefixes] at key
      apply key
  | _ => rfl

theorem get_remnant_vram {px py : Nat} (hx : px < 64) (hy : py < 32) :
  (m.remnant i (.ofWord m.word)).screen.vram.get (py * 64 + px) = m.pixelLeft (some i) px py
  := by
  cases i with
  | draw =>
      obtain ⟨⟨-, beyond⟩, -⟩ := Option.ite_none_right_eq_some.mp refused
      have short := Opcode.n_lt m.word
      have few : 0x1000 - m.registers.i.value ≤ 32 := by omega
      apply get_drawn m.screen.vram m.ram _ _ _ few hx hy
  | loadRegisters =>
      have key := m.load_screen ((Action.registersTo (Opcode.ofWord m.word).x).take
        (0x1000 - m.registers.i.value)) m.registers.i.value
      exact congrArg (fun s => s.vram.get (py * 64 + px)) key
  | _ => rfl

/-- What a refused instruction leaves. -/
theorem abandoned_remnant :
  m.Abandoned (some i) (m.remnant i (.ofWord m.word))
  := by
  have kept := m.remnant_eq i (.ofWord m.word)
  constructor
  case bytes => intro k hk; apply get_remnant_ram index refused hk
  case data => apply get_remnant_registers index refused
  case index => cases i <;> rfl
  case pixels => intro px hx py hy; apply get_remnant_vram index refused hx hy
  case whole =>
    intro other
    cases i with
    | draw => exact absurd (by decide) other
    | storeDigits => exact absurd (by decide) other
    | storeRegisters => exact absurd (by decide) other
    | loadRegisters => exact absurd (by decide) other
    | _ => rfl
  all_goals rw [kept]

end

/-- What a step leaves that fails. -/
theorem abandoned_stepped {m : Machine} (h : m.InBounds) {e : Fault} (fault : m.fault? = some e) :
  m.Abandoned m.next? m.stepped
  := by
  rw [stepped]
  cases found : m.next? with
  | none => apply abandoned_none
  | some i =>
      rw [fault?_of_next? found] at fault
      dsimp only
      rw [fault]
      apply abandoned_remnant h.index fault

end Machine

/-- A tick that fails leaves the machine as the failing instruction left it, and neither the
channels nor the number of ticks change. -/
theorem Processor.tick_fails_leaving {c d : Processor} {e : Fault} (h : Reachable c)
    (failed : c.tick = .error e d) :
  c.machine.Abandoned c.machine.next? d.machine ∧ d.keyChannel = c.keyChannel ∧
    d.buzzerChannel = c.buzzerChannel ∧ d.ticks = c.ticks
  := by
  have bounds := h.inBounds
  rw [tick_eq bounds] at failed
  obtain ⟨fault, rfl⟩ := ending_eq_error_iff.mp failed
  constructor
  · apply Machine.abandoned_stepped bounds fault
  constructor
  · rw [stepped, aware_eq]
  constructor
  · rw [stepped, aware_eq]
  · rw [stepped, aware_eq]

/-- Two registers that are stored at the last address: the first one is there, the second is not
stored. -/
theorem Processor.tick_fails_leaving_store :
  let c := ((idle (.ofList [7])).booted [0x60, 0x2a, 0xaf, 0xff, 0xf1, 0x55]).play [.tick, .tick]
  Reachable c ∧ c.tick = .error (.tooWide "I" 12 0x1000) c.stepped ∧
    c.stepped.machine.ram.get 0xfff = 0x2a
  := by
  intro c
  have reached : Reachable c := (Reachable.boot _ _ (by decide)).play _
  have fault : c.machine.fault? = some (.tooWide "I" 12 0x1000) := by decide +kernel
  have failed := tick_of_fault reached.inBounds fault
  have stored : c.machine.byteLeft c.machine.next? 0xfff = 0x2a := by decide +kernel
  have left := (tick_fails_leaving reached failed).1.bytes 0xfff (by decide)
  exact ⟨reached, failed, left.trans stored⟩

end Chip8
