import Chip8.Proofs.Failure
import Chip8.Proofs.Peripherals

/-!
# Timers over runs

The delay timer and the sound timer are counted down once in every tick, after the instruction, and
no instruction sets them but their own. So what they hold is told by the number of ticks since they
were set (`Processor.countdown_play`), and so is whether the buzzer is on: it is switched before
the sound timer is counted down, and sounds for as many ticks as the timer was set to.
-/

namespace Chip8.Processor

/-! ### Countdowns -/

/-- A request that carries nothing out keeps the timers and the buzzer. -/
theorem after_idle {c : Processor} (h : c.machine.InBounds) {r : Request} (noStep : r ≠ .step)
    (idle : c.executed? r = none) :
  (c.after r).machine.delay = c.machine.delay ∧ (c.after r).machine.sound = c.machine.sound ∧
    (c.after r).buzzerChannel = c.buzzerChannel
  := by
  cases r with
  | step => exact absurd rfl noStep
  | tick =>
      rcases tick_cases h with ⟨e, fault, -, -, after⟩ | ⟨i, -, -, -, -, carried, -⟩
      · have kept := Machine.abandoned_stepped h fault
        rw [after]
        exact ⟨kept.delay, kept.sound, by rw [stepped, aware_eq]⟩
      · rw [carried] at idle
        cases idle
  | publish states =>
      rw [after_publish_eq]
      exact ⟨rfl, rfl, rfl⟩

/-- A tick that carries out an instruction counts the timers down after it, and switches the buzzer
by the sound timer before it is counted down. -/
theorem after_executed {c : Processor} (h : c.machine.InBounds) {x : Executed}
    (carried : c.executed? .tick = some x) :
  let m := c.machine.outcome x.instruction (.ofWord c.machine.word)
  (c.after .tick).machine.delay.value = m.delay.value - 1 ∧
    (c.after .tick).machine.sound.value = m.sound.value - 1 ∧
    (c.after .tick).buzzerChannel.playing = m.sound.ticking
  := by
  rcases tick_cases h with ⟨e, -, -, idle, -⟩ | ⟨i, -, -, stepped, -, same, after⟩
  · rw [idle] at carried
    cases carried
  · rw [same] at carried
    obtain rfl := Option.some.inj carried
    obtain ⟨keys, served⟩ := served_machine c.stepped
    rw [after, served_playing, served, stepped]
    exact ⟨rfl, rfl, rfl⟩

/-- What every tick counts down by one, unless a certain instruction is carried out, is counted
down by the number of instructions that ticks carry out. -/
theorem countdown_play {R : Nat → Processor → Prop} {setter : Instruction}
    (count : ∀ {c : Processor} {v : Nat} {x : Executed}, c.machine.InBounds → R v c →
      c.executed? .tick = some x → x.instruction ≠ setter → R (v - 1) (c.after .tick))
    (keep : ∀ {c : Processor} {v : Nat} {r : Request}, c.machine.InBounds → R v c → r ≠ .step →
      c.executed? r = none → R v (c.after r))
    {c : Processor} (h : c.machine.InBounds) {v : Nat} (start : R v c) {rs : List Request}
    (ticks : .step ∉ rs) (others : ∀ x ∈ c.history rs, x.instruction ≠ setter) :
  R (v - (c.history rs).length) (c.play rs)
  := by
  induction rs generalizing c v with
  | nil => apply start
  | cons r rs ih =>
      rw [List.mem_cons, not_or] at ticks
      obtain ⟨noStep, ticks⟩ := ticks
      rw [history] at others ⊢
      have bounds := after_inBounds h r
      cases carried : c.executed? r with
      | none =>
          rw [carried] at others
          exact ih bounds (keep h start (Ne.symm noStep) carried) ticks others
      | some x =>
          rw [carried] at others
          obtain ⟨first, others⟩ := List.forall_mem_cons.mp others
          cases r with
          | step => exact absurd rfl noStep
          | publish states => cases carried
          | tick =>
              have key := ih bounds (count h start carried first) ticks others
              rw [Nat.sub_sub, Nat.add_comm] at key
              exact key

/-- If all ticks complete, each of them carries out an instruction. -/
theorem length_history {c : Processor} (h : c.machine.InBounds) {rs : List Request}
    (ticks : .step ∉ rs) (completes : c.EachTick rs CompletesTick) :
  (c.history rs).length = rs.count .tick
  := by
  induction rs generalizing c with
  | nil => rfl
  | cons r rs ih =>
      rw [List.mem_cons, not_or] at ticks
      obtain ⟨noStep, ticks⟩ := ticks
      have later : (c.after r).EachTick rs CompletesTick := by
        intro before begins
        apply completes (r :: before) (List.cons_prefix_cons.mpr ⟨rfl, begins⟩)
      rw [history, List.length_append, ih (after_inBounds h r) ticks later]
      cases r with
      | step => exact absurd rfl noStep
      | publish states => exact Nat.zero_add _
      | tick =>
          obtain ⟨d, completed⟩ := completes [] (List.cons_prefix_cons.mpr ⟨rfl, List.nil_prefix⟩)
          rcases tick_cases h with ⟨e, -, failed, -⟩ | ⟨i, -, -, -, -, carried, -⟩
          · cases failed.symm.trans completed
          · rw [carried, List.count_cons_self]
            exact Nat.add_comm _ _

/-! ### The timers -/

theorem delay_play {c : Processor} (h : c.machine.InBounds) {rs : List Request}
    (ticks : .step ∉ rs) (others : ∀ x ∈ c.history rs, x.instruction ≠ .setDelay) :
  (c.play rs).machine.delay.value = c.machine.delay.value - (c.history rs).length
  := by
  apply countdown_play (R := fun v c => c.machine.delay.value = v) _ _ h rfl ticks others
  · rintro c v x h rfl carried other
    rw [(after_executed h carried).1, Machine.outcome_delay _ _ other]
  · rintro c v r h rfl noStep idle
    rw [(after_idle h noStep idle).1]

/-- The buzzer is still on for a number of ticks, the last one included. -/
def Sounds (v : Nat) (c : Processor) : Prop :=
  c.machine.sound.value = v - 1 ∧ (c.buzzerChannel.playing = true ↔ 0 < v)

theorem sounds_play {c : Processor} (h : c.machine.InBounds) {v : Nat} (start : c.Sounds v)
    {rs : List Request} (ticks : .step ∉ rs)
    (others : ∀ x ∈ c.history rs, x.instruction ≠ .setSound) :
  (c.play rs).Sounds (v - (c.history rs).length)
  := by
  apply countdown_play (R := fun v c => c.Sounds v) _ _ h start ticks others
  · rintro c v x h ⟨sound, -⟩ carried other
    obtain ⟨-, counted, playing⟩ := after_executed h carried
    rw [Machine.outcome_sound _ _ other] at counted playing
    constructor
    · rw [counted, sound]
    · rw [playing, Timer.ticking, decide_eq_true_iff, sound]
  · rintro c v r h ⟨sound, playing⟩ noStep idle
    obtain ⟨-, sameSound, sameBuzzer⟩ := after_idle h noStep idle
    rw [Sounds, sameSound, sameBuzzer]
    exact ⟨sound, playing⟩

/-- The delay timer is told by the ticks since it was set, and is loaded as such. The buzzer is on
for as many ticks as the sound timer was set to, the tick that set it included. Only ticks that
carry out an instruction count, and these are all if all of them complete. -/
theorem timers_run {c : Processor} (h : Reachable c) {rs : List Request} (ticks : .step ∉ rs) :
  let v := c.machine.registers.get (Opcode.ofWord c.machine.word).x
  let later := (c.after .tick).history rs
  let d := (c.after .tick).play rs
  ((c.after .tick).EachTick rs CompletesTick → later.length = rs.count .tick) ∧
    (∀ p, c.executed? .tick = some ⟨p, .setDelay⟩ → (∀ x ∈ later, x.instruction ≠ .setDelay) →
      d.machine.delay.value = v - (later.length + 1) ∧
        ∀ q, d.executed? .tick = some ⟨q, .loadDelay⟩ →
          (d.after .tick).machine.registers.get (Opcode.ofWord d.machine.word).x =
            v - (later.length + 1)) ∧
    ∀ p, c.executed? .tick = some ⟨p, .setSound⟩ → (∀ x ∈ later, x.instruction ≠ .setSound) →
      d.machine.sound.value = v - 1 - later.length ∧
        (d.buzzerChannel.playing = true ↔ later.length < v)
  := by
  intro v later d
  have bounds := after_inBounds h.inBounds .tick
  constructor
  · apply length_history bounds ticks
  constructor
  · intro p set others
    have start : (c.after .tick).machine.delay.value = v - 1 := (after_executed h.inBounds set).1
    have delay : d.machine.delay.value = v - (later.length + 1) := by
      rw [delay_play bounds ticks others, start, Nat.sub_sub, Nat.add_comm]
    use delay
    intro q loads
    rw [← delay]
    rcases tick_cases (play_inBounds bounds rs) with ⟨e, -, -, idle, -⟩ | ⟨i, -, -, stepped, -, same, after⟩
    · rw [idle] at loads
      cases loads
    · rw [same] at loads
      cases loads
      obtain ⟨keys, served⟩ := served_machine d.stepped
      rw [after, served]
      show d.stepped.machine.registers.get _ = _
      rw [stepped]
      apply Eq.trans (Machine.get_withData _ _ _ _)
      rw [if_pos rfl]
  · intro p set others
    obtain ⟨-, sound, playing⟩ := after_executed h.inBounds set
    have start : (c.after .tick).Sounds v := by
      constructor
      · exact sound
      · rw [playing]
        exact decide_eq_true_iff
    obtain ⟨left, on⟩ := sounds_play bounds start ticks others
    constructor
    · rw [left, Nat.sub_right_comm]
    · rw [on, Nat.sub_pos_iff_lt]

/-- A program that sets the delay timer to five and the sound timer to three, and then waits for a
key. -/
def settingTimers : Processor :=
  ((idle (.ofList [7])).booted
    [0x60, 0x05, 0xf0, 0x15, 0x60, 0x03, 0xf0, 0x18, 0xf1, 0x0a]).play [.tick]

/-- The delay timer is one when it was set to five three ticks before, and a buzzer that was set to
three sounds in two further ticks in which the program waits for a key. -/
theorem timers_run_waiting :
  let c := settingTimers
  let c' := c.play [.tick, .tick]
  Reachable c ∧ c.executed? .tick = some ⟨0x202, .setDelay⟩ ∧
    ((c.after .tick).play [.tick, .tick, .tick]).machine.delay.value = 1 ∧
    Reachable c' ∧ c'.executed? .tick = some ⟨0x206, .setSound⟩ ∧
    ((c'.after .tick).play [.tick, .tick]).buzzerChannel.playing = true ∧
    ((c'.after .tick).play [.tick, .tick, .tick]).buzzerChannel.playing = false
  := by
  intro c c'
  have reached : Reachable c := (Reachable.boot _ _ (by decide)).play _
  have reached' : Reachable c' := reached.play _
  have forDelay : c.executed? .tick = some ⟨0x202, .setDelay⟩ ∧
      c.machine.registers.get (Opcode.ofWord c.machine.word).x = 5 ∧
      (c.after .tick).history [.tick, .tick, .tick] =
        [⟨0x204, .loadByte⟩, ⟨0x206, .setSound⟩, ⟨0x208, .awaitKey⟩] := by decide +kernel
  have forSound : c'.executed? .tick = some ⟨0x206, .setSound⟩ ∧
      c'.machine.registers.get (Opcode.ofWord c'.machine.word).x = 3 ∧
      (c'.after .tick).history [.tick, .tick] = [⟨0x208, .awaitKey⟩, ⟨0x208, .awaitKey⟩] ∧
      (c'.after .tick).history [.tick, .tick, .tick] =
        [⟨0x208, .awaitKey⟩, ⟨0x208, .awaitKey⟩, ⟨0x208, .awaitKey⟩] := by decide +kernel
  obtain ⟨setDelay, five, between⟩ := forDelay
  obtain ⟨setSound, three, two, all⟩ := forSound
  obtain ⟨-, delay, -⟩ := @timers_run c reached [.tick, .tick, .tick] (by decide)
  obtain ⟨-, -, sound⟩ := @timers_run c' reached' [.tick, .tick] (by decide)
  obtain ⟨-, -, silence⟩ := @timers_run c' reached' [.tick, .tick, .tick] (by decide)
  rw [between, five] at delay
  rw [two, three] at sound
  rw [all, three] at silence
  use reached, setDelay, (delay 0x202 setDelay (by decide)).1, reached', setSound
  constructor
  · apply (sound 0x206 setSound (by decide)).2.mpr (by decide)
  · apply Bool.eq_false_iff.mpr
    intro on
    exact absurd ((silence 0x206 setSound (by decide)).2.mp on) (by decide)

end Chip8.Processor
