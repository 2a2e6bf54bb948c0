import Chip8.Proofs.Failure
import Chip8.Proofs.Peripherals

/-!
# Waiting for a key

The instruction that waits for a key leaves the program counter alone, so every tick fetches it
again until a key is held down. That a wait is pending is noted in the machine, and in all
reachable states the note agrees with the word at the program counter (`Machine.WaitsInPlace`), so
a tick cannot fail while a wait is pending. While no key is held down, ticks change nothing but
the timers and the screen's publication (`Machine.Waited`), and the first tick that starts with a
key held down ends the wait.
-/

namespace Chip8

/-! ### The word that waits for a key -/

/-- The bits of a number outside its third nibble. -/
theorem land_outer (w : Nat) :
  w &&& 0xf0ff = w / 4096 % 16 * 4096 + w % 256
  := by
  have high : (w &&& 0xf0ff) / 4096 = w / 4096 % 16 := by
    rw [show 4096 = 2 ^ 12 from rfl, Nat.and_div_two_pow]
    exact Nat.and_two_pow_sub_one_eq_mod (w / 2 ^ 12) 4
  have low : (w &&& 0xf0ff) % 4096 = w % 256 := by
    rw [show 4096 = 2 ^ 12 from rfl, Nat.and_mod_two_pow]
    apply Eq.trans (Nat.and_two_pow_sub_one_eq_mod (w % 2 ^ 12) 8)
    omega
  omega

namespace Instruction

/-- The word that waits for a key for a register. -/
def waitWord (x : Fin 16) : Nat := 0xf00a + 256 * x.val

theorem ofWord?_waitWord (x : Fin 16) :
  ofWord? (waitWord x) = some .awaitKey ∧ (Opcode.ofWord (waitWord x)).x = x
  := by
  revert x
  decide

theorem eq_waitWord {w : Nat} (small : w < 0x10000) (h : ofWord? w = some .awaitKey) :
  w = waitWord (Opcode.ofWord w).x
  := by
  have accepted : w &&& 0xf0ff = 0xf00a :=
    Int.ofNat.inj (beq_iff_eq.mp ((ofWord?_eq_some_iff w .awaitKey).mp h))
  have register : (Opcode.ofWord w).x.val = w / 256 % 16 := by
    have low : ((w : Int) % 65536).toNat = w := by omega
    show ((w : Int) % 65536).toNat / 256 % 16 = w / 256 % 16
    rw [low]
  rw [land_outer] at accepted
  rw [waitWord, register]
  omega

end Instruction

/-! ### The lowest key that is held down -/

namespace Registers

theorem pressedKey_eq_none_iff (r : Registers) :
  r.pressedKey = none ↔ ∀ key, r.keys.get key = false
  := by
  simp [pressedKey]

theorem pressedKey_eq_some_iff (r : Registers) (key : Fin 16) :
  r.pressedKey = some key ↔
    r.keys.get key = true ∧ ∀ lower < key, r.keys.get lower = false
  := by
  rw [pressedKey, List.find?_eq_some_iff_getElem]
  constructor
  · rintro ⟨down, i, inside, rfl, first⟩
    use down
    intro lower below
    have key := first lower.val (by simpa [List.getElem_finRange, Fin.lt_def] using below)
    simpa [List.getElem_finRange] using key
  · rintro ⟨down, lowest⟩
    use down, key.val, by simp
    constructor
    · simp [List.getElem_finRange]
    · intro j below
      rw [lowest _ (by simpa [List.getElem_finRange, Fin.lt_def] using below)]
      rfl

end Registers

/-! ### Waits that are pending -/

namespace Machine

/-- The machine is about to fetch the word that waits for a key for a register. -/
structure AtWait (m : Machine) (x : Fin 16) : Prop where
  inside : m.registers.pc.value ≤ 0xffe
  word : m.word = Instruction.waitWord x

/-- If a wait is pending, the program counter is still at its word. -/
def WaitsInPlace (m : Machine) : Prop := ∀ x, m.awaiting = some x → m.AtWait x

namespace AtWait

variable {m : Machine} {x : Fin 16}

/-- What is fetched is decided by the program counter and the memory. -/
theorem congr (h : m.AtWait x) {m' : Machine} (pc : m'.registers.pc = m.registers.pc)
    (ram : m'.ram = m.ram) :
  m'.AtWait x
  := by
  constructor
  · rw [pc]
    apply h.inside
  · rw [Machine.word, ram, pc]
    apply h.word

theorem next? (h : m.AtWait x) :
  m.next? = some .awaitKey
  := by
  rw [Machine.next?, fetched?, if_pos h.inside, Option.bind_some, h.word]
  apply (Instruction.ofWord?_waitWord x).1

theorem register (h : m.AtWait x) :
  (Opcode.ofWord m.word).x = x
  := by
  rw [h.word]
  apply (Instruction.ofWord?_waitWord x).2

theorem fault? (h : m.AtWait x) :
  m.fault? = none
  := fault?_of_next? h.next?

end AtWait

theorem InBounds.word_lt {m : Machine} (h : m.InBounds) :
  m.word < 0x10000
  := by
  have high := h.ram m.registers.pc.value
  have low := h.ram (m.registers.pc.value + 1)
  rw [word]
  omega

/-- A machine that finds the instruction is at its word. -/
theorem InBounds.atWait {m : Machine} (h : m.InBounds) (found : m.next? = some .awaitKey) :
  m.AtWait (Opcode.ofWord m.word).x
  := by
  obtain ⟨inside, known⟩ := next?_eq_some found
  exact ⟨inside, Instruction.eq_waitWord h.word_lt known⟩

/-- An instruction that is carried out keeps pending waits at their words. -/
theorem WaitsInPlace.outcome {m : Machine} (w : m.WaitsInPlace) (h : m.InBounds)
    {i : Instruction} (found : m.next? = some i) :
  (m.outcome i (.ofWord m.word)).WaitsInPlace
  := by
  intro x pending
  by_cases waits : i = .awaitKey
  · subst waits
    cases pressed : m.registers.pressedKey with
    | none =>
        rw [outcome_awaitKey_of_none _ pressed] at pending ⊢
        obtain rfl := Option.some.inj pending
        exact (h.atWait found).congr rfl rfl
    | some key =>
        rw [outcome_awaitKey_of_some _ pressed] at pending
        cases pending
  · -- No other instruction is found where a wait is pending.
    rw [m.outcome_awaiting _ waits] at pending
    rw [(w x pending).next?] at found
    exact absurd (Option.some.inj found).symm waits

/-- A step keeps pending waits at their words; it does not fail while there is one. -/
theorem WaitsInPlace.stepped {m : Machine} (w : m.WaitsInPlace) (h : m.InBounds) :
  m.stepped.WaitsInPlace
  := by
  cases fault : m.fault? with
  | none =>
      obtain ⟨i, found, carried⟩ := stepped_of_sound fault
      rw [carried]
      apply w.outcome h found
  | some e =>
      intro x pending
      rw [(abandoned_stepped h fault).awaiting] at pending
      rw [(w x pending).fault?] at fault
      cases fault

end Machine

namespace Processor

theorem served_waitsInPlace {c : Processor} (w : c.machine.WaitsInPlace) :
  c.served.machine.WaitsInPlace
  := by
  obtain ⟨keys, served⟩ := served_machine c
  intro x pending
  rw [served] at pending ⊢
  exact (w x pending).congr rfl rfl

theorem after_waitsInPlace {c : Processor} (w : c.machine.WaitsInPlace) (h : c.machine.InBounds)
    (r : Request) :
  (c.after r).machine.WaitsInPlace
  := by
  cases r with
  | step =>
      rw [after_step h]
      apply w.stepped h
  | tick =>
      rw [after_tick h]
      split
      · apply served_waitsInPlace
        apply w.stepped h
      · apply w.stepped h
  | publish states =>
      rw [after_publish]
      apply w

/-- In every reachable state a pending wait is for the word at the program counter. -/
theorem Reachable.waitsInPlace {c : Processor} (h : Reachable c) :
  c.machine.WaitsInPlace
  := by
  induction h with
  | boot c rom short =>
      rw [booted_eq c short]
      intro x pending
      cases pending
  | serve reached r ih => apply after_waitsInPlace ih reached.inBounds r

/-! ### Runs that halt -/

/-- A row of laps that ends with a halt does not wait for a key. -/
theorem tickUpTo_error_awaiting {n : Nat} {c d : Processor} {halt : Halt}
    (w : c.machine.WaitsInPlace) (h : c.machine.InBounds)
    (halted : tickUpTo n c = .error (.halt halt) d) :
  d.machine.awaiting = none
  := by
  induction n generalizing c with
  | zero => cases halted
  | succ n ih =>
      rw [tickUpTo_succ] at halted
      split at halted
      · cases halted
      · cases lapped : c.lap with
        | ok u d' =>
            rw [lapped] at halted
            have ticked := (lap_eq_ok_iff.mp lapped).1
            rw [tick_eq h] at ticked
            obtain ⟨-, rfl⟩ := ending_eq_ok_iff.mp ticked
            exact ih (served_waitsInPlace (w.stepped h)) (served_inBounds (stepped_inBounds h)) halted
        | error b d' =>
            rw [lapped] at halted
            cases halted
            rcases lap_eq_error_iff.mp lapped with ⟨e, ticked, -⟩ | ⟨-, -, -, ⟨⟩⟩
            rw [tick_eq h] at ticked
            obtain ⟨fault, rfl⟩ := ending_eq_error_iff.mp ticked
            show c.machine.stepped.awaiting = none
            rw [(Machine.abandoned_stepped h fault).awaiting, Option.eq_none_iff_forall_ne_some]
            intro x pending
            rw [(w x pending).fault?] at fault
            cases fault

theorem conclude_error_awaiting {before n : Nat} {c d : Processor} {halt : Halt}
    (w : c.machine.WaitsInPlace) (h : c.machine.InBounds)
    (halted : conclude before (tickUpTo n c) = (.error (.halt halt), d)) :
  d.machine.awaiting = none
  := by
  cases ended : tickUpTo n c with
  | ok u d' => rw [ended] at halted; cases halted
  | error b d' =>
      rw [ended] at halted
      cases halted
      show d'.machine.awaiting = none
      apply tickUpTo_error_awaiting w h ended

end Processor

/-! ### Ticks that wait -/

/-- The machine `m'` is left when `m` makes `k` ticks in which it waits for a key for `x`. -/
structure Machine.Waited (m : Machine) (x : Fin 16) (k : Nat) (m' : Machine) : Prop where
  data : m'.registers.data = m.registers.data
  index : m'.registers.i = m.registers.i
  pc : m'.registers.pc = m.registers.pc
  ram : m'.ram = m.ram
  stack : m'.stack = m.stack
  pixels : m'.screen.vram = m.screen.vram
  delay : m'.delay.value = m.delay.value - k
  sound : m'.sound.value = m.sound.value - k
  awaiting : 0 < k → m'.awaiting = some x

theorem Machine.waited_zero (m : Machine) (x : Fin 16) :
  m.Waited x 0 m
  where
  data := rfl
  index := rfl
  pc := rfl
  ram := rfl
  stack := rfl
  pixels := rfl
  delay := rfl
  sound := rfl
  awaiting positive := absurd positive (Nat.lt_irrefl 0)

namespace Processor

/-- No key is held down. -/
def KeysUp (c : Processor) : Prop := ∀ key, c.machine.registers.keys.get key = false

instance (c : Processor) : Decidable c.KeysUp :=
  inferInstanceAs (Decidable (∀ key, c.machine.registers.keys.get key = false))

section

variable {c : Processor} (h : c.machine.InBounds) {x : Fin 16}

include h

/-- A tick at the word that waits for a key completes. -/
theorem tick_of_atWait (at_ : c.machine.AtWait x) :
  c.tick = .ok () c.stepped.served ∧ c.after .tick = c.stepped.served ∧
    c.stepped.machine = c.machine.outcome .awaitKey (.ofWord c.machine.word)
  := by
  rcases tick_cases h with ⟨e, fault, -⟩ | ⟨i, -, found, carried, ended, -, after⟩
  · rw [at_.fault?] at fault
    cases fault
  · rw [at_.next?] at found
    obtain rfl := Option.some.inj found
    exact ⟨ended, after, carried⟩

/-- A tick that finds no key held down waits. -/
theorem waited_tick {m : Machine} {k : Nat} (waited : m.Waited x k c.machine)
    (at_ : c.machine.AtWait x) (up : c.KeysUp) :
  m.Waited x (k + 1) (c.after .tick).machine
  := by
  obtain ⟨-, after, carried⟩ := tick_of_atWait h at_
  rw [Machine.outcome_awaitKey_of_none _ ((Registers.pressedKey_eq_none_iff _).mpr up),
    at_.register] at carried
  obtain ⟨keys, served⟩ := served_machine c.stepped
  have pixels : c.stepped.presented.machine.screen.vram = c.stepped.machine.screen.vram := by
    rw [presented]
    split <;> rfl
  rw [after, served]
  constructor
  case pixels =>
    apply pixels.trans
    rw [carried]
    apply waited.pixels
  case delay =>
    show c.stepped.machine.delay.value - 1 = m.delay.value - (k + 1)
    rw [carried, waited.delay]
    apply Nat.sub_sub
  case sound =>
    show c.stepped.machine.sound.value - 1 = m.sound.value - (k + 1)
    rw [carried, waited.sound]
    apply Nat.sub_sub
  case awaiting =>
    intro _
    show c.stepped.machine.awaiting = some x
    rw [carried]
  case data => exact (congrArg (fun m => m.registers.data) carried).trans waited.data
  case index => exact (congrArg (fun m => m.registers.i) carried).trans waited.index
  case pc => exact (congrArg (fun m => m.registers.pc) carried).trans waited.pc
  case ram => exact (congrArg Machine.ram carried).trans waited.ram
  case stack => exact (congrArg Machine.stack carried).trans waited.stack

/-- A tick that finds a key held down ends the wait with the lowest such key. -/
theorem resumed_tick (at_ : c.machine.AtWait x) {key : Fin 16}
    (down : c.machine.registers.pressedKey = some key) :
  ∃ d, c.tick = .ok () d ∧
    (∀ y, d.machine.registers.get y = if y = x then key.val else c.machine.registers.get y) ∧
    d.machine.awaiting = none ∧
    d.machine.registers.pc.value = c.machine.registers.pc.value + 2
  := by
  obtain ⟨ended, -, carried⟩ := tick_of_atWait h at_
  rw [Machine.outcome_awaitKey_of_some _ down, at_.register] at carried
  obtain ⟨keys, served⟩ := served_machine c.stepped
  use c.stepped.served, ended
  rw [served, carried]
  constructor
  · intro y
    exact Machine.get_withData _ x y key.val
  · exact ⟨rfl, rfl⟩

/-- Ticks wait as long as each of them finds no key held down. -/
theorem waited_play (at_ : c.machine.AtWait x) {rs : List Request} (ticks : .step ∉ rs)
    (up : c.EachTick rs KeysUp) :
  c.machine.Waited x (rs.count .tick) (c.play rs).machine ∧ c.EachTick rs CompletesTick
  := by
  induction rs using List.reverseRecOn with
  | nil => exact ⟨c.machine.waited_zero x, c.eachTick_nil _⟩
  | append_singleton rs r ih =>
      rw [List.mem_append, not_or] at ticks
      obtain ⟨ticks, last⟩ := ticks
      obtain ⟨up, upLast⟩ := eachTick_concat.mp up
      obtain ⟨waited, completes⟩ := ih ticks up
      have bounds : (c.play rs).machine.InBounds := play_inBounds h rs
      have still : (c.play rs).machine.AtWait x := at_.congr waited.pc waited.ram
      rw [play_concat, eachTick_concat, List.count_append]
      cases r with
      | step => exact absurd List.mem_cons_self last
      | tick =>
          constructor
          · apply waited_tick bounds waited still (upLast rfl)
          · use completes
            intro _
            exact ⟨_, (tick_of_atWait bounds still).1⟩
      | publish states =>
          constructor
          · rw [after_publish]
            apply waited
          · use completes
            rintro ⟨⟩

end

/-- A pending wait is for the word at the program counter; no tick fails while it is pending, and no
run halts. From this word on, the ticks that find no key held down wait, and the first tick
that finds one stores the lowest and goes on. -/
theorem key_wait {c : Processor} (h : Reachable c) :
  (∀ x, c.machine.awaiting = some x → c.machine.AtWait x ∧ c.CompletesTick) ∧
    (∀ limit halt d, c.run limit = (.error (.halt halt), d) → d.isWaiting = false) ∧
    (∀ fuel halt d, c.runToEnd? fuel = some (.error (.halt halt), d) → d.isWaiting = false) ∧
    ∀ x rs, c.machine.AtWait x → .step ∉ rs → c.EachTick rs KeysUp →
      c.EachTick rs CompletesTick ∧
        c.machine.Waited x (rs.count .tick) (c.play rs).machine ∧
        ∀ key, (c.play rs).machine.registers.keys.get key = true →
          (∀ lower < key, (c.play rs).machine.registers.keys.get lower = false) →
          ∃ d, (c.play rs).tick = .ok () d ∧ d.machine.registers.get x = key.val ∧
            (∀ y ≠ x, d.machine.registers.get y = c.machine.registers.get y) ∧
            d.machine.awaiting = none ∧
            d.machine.registers.pc.value = c.machine.registers.pc.value + 2
  := by
  have bounds := h.inBounds
  have inPlace := h.waitsInPlace
  constructor
  · intro x pending
    have at_ := inPlace x pending
    exact ⟨at_, _, (tick_of_atWait bounds at_).1⟩
  constructor
  · intro limit halt d halted
    rw [isWaiting, @conclude_error_awaiting c.ticks limit c.started d halt inPlace bounds halted]
    rfl
  constructor
  · intro fuel halt d halted
    obtain ⟨-, concluded⟩ := Option.ite_none_right_eq_some.mp halted
    have key := Option.some.inj concluded
    rw [isWaiting, @conclude_error_awaiting c.ticks fuel c.started d halt inPlace bounds key]
    rfl
  · intro x rs at_ ticks up
    obtain ⟨waited, completes⟩ := waited_play bounds at_ ticks up
    use completes, waited
    intro key down lowest
    have still : (c.play rs).machine.AtWait x := at_.congr waited.pc waited.ram
    have pressed := (Registers.pressedKey_eq_some_iff _ key).mpr ⟨down, lowest⟩
    obtain ⟨d, ended, data, cleared, counter⟩ := resumed_tick (play_inBounds bounds rs) still pressed
    use d, ended
    constructor
    · rw [data, if_pos rfl]
    constructor
    · intro y other
      rw [data, if_neg other]
      exact congrArg (fun v : Vector Nat 16 => v.get y) waited.data
    · rw [counter, waited.pc]
      exact ⟨cleared, rfl⟩

/-- A processor that is about to wait for a key, with the delay timer at six. -/
def aboutToWait : Processor :=
  ((idle (.ofList [7])).booted [0x6a, 0x07, 0xfa, 0x15, 0xf3, 0x0a]).play [.tick, .tick]

/-- The keys five and nine are held down. -/
def twoKeysDown : List Bool := (List.range 16).map fun key => key == 5 || key == 9

/-- A key that is published while a tick waits is found by the next but one. -/
theorem key_wait_published :
  let c := aboutToWait
  let rs : List Request := [.tick, .publish twoKeysDown, .tick]
  c.machine.AtWait 3 ∧ c.machine.Waited 3 2 (c.play rs).machine ∧
    (c.play rs).machine.delay.value = 4 ∧ (c.play rs).machine.awaiting = some 3 ∧
    ∃ d, (c.play rs).tick = .ok () d ∧ d.machine.registers.get 3 = 5 ∧
      d.machine.registers.pc.value = 0x206
  := by
  intro c rs
  have reached : Reachable c := (Reachable.boot _ _ (by decide)).play _
  have start : c.machine.registers.pc.value = 0x204 ∧ c.machine.word = Instruction.waitWord 3 ∧
      c.machine.delay.value = 6 ∧ (c.play []).KeysUp := by decide +kernel
  obtain ⟨counter, word, delay, upFirst⟩ := start
  have at_ : c.machine.AtWait 3 := ⟨Nat.le_trans (Nat.le_of_eq counter) (by decide), word⟩
  have first : c.EachTick ([] ++ [.tick]) KeysUp :=
    eachTick_concat.mpr ⟨c.eachTick_nil _, fun _ => upFirst⟩
  have second : c.EachTick ([] ++ [.tick] ++ [.publish twoKeysDown]) KeysUp :=
    eachTick_concat.mpr ⟨first, by rintro ⟨⟩⟩
  have up : c.EachTick rs KeysUp := eachTick_concat.mpr ⟨second, fun _ => by decide +kernel⟩
  obtain ⟨-, -, -, waits⟩ := key_wait reached
  obtain ⟨-, waited, resumes⟩ := waits 3 rs at_ (by decide) up
  have down : (c.play rs).machine.registers.keys.get 5 = true ∧
      ∀ lower < (5 : Fin 16), (c.play rs).machine.registers.keys.get lower = false := by
    decide +kernel
  obtain ⟨d, ended, loaded, -, -, next⟩ := resumes 5 down.1 down.2
  rw [counter] at next
  use at_, waited
  exact ⟨by rw [waited.delay, delay]; rfl, waited.awaiting (by decide), d, ended, loaded, next⟩

end Processor

end Chip8
