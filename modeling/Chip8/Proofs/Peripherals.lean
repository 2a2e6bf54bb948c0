import Chip8.Proofs.Nesting

/-!
# What the peripherals see

Besides the program, a tick changes what the peripherals serve: the screen, the two timers and the
register that waits for a key. Only five instructions touch these parts
(`Machine.outcome_peripherals`), and after the instruction the peripherals are served in one go
(`Processor.served_machine`). A tick either fails and leaves what its step left, or it carries out
an instruction and serves the peripherals (`Processor.tick_cases`), and from this everything is
derived that holds over runs.
-/

namespace Chip8

namespace Machine

/-- The parts of a machine that the peripherals serve or that tell them what to do. -/
structure Peripherals where
  screen : Screen .standard
  delay : Timer "DT"
  sound : Timer "ST"
  awaiting : Option (Fin 16)
deriving DecidableEq

/-- The parts of a machine that the peripherals serve. -/
def peripherals (m : Machine) : Peripherals := ⟨m.screen, m.delay, m.sound, m.awaiting⟩

/-- Without a key that is held down, the instruction that waits for one only notes its register. -/
theorem outcome_awaitKey_of_none {m : Machine} (op : Opcode) (up : m.registers.pressedKey = none) :
  m.outcome .awaitKey op = { m with awaiting := some op.x }
  := by
  rw [outcome, up]

/-- The instruction that waits for a key ends the wait with the lowest key that is held down. -/
theorem outcome_awaitKey_of_some {m : Machine} (op : Opcode) {key : Fin 16}
    (down : m.registers.pressedKey = some key) :
  m.outcome .awaitKey op = { m with awaiting := none }.assign op.x key.val
  := by
  rw [outcome, down]

/-- Clearing, drawing, waiting for a key and setting a timer are the only instructions that touch
the peripherals, each of them only one. -/
theorem outcome_peripherals (m : Machine) (i : Instruction) (op : Opcode) :
  (m.outcome i op).peripherals =
    match i with
    | .clearScreen => { m.peripherals with screen := m.screen.clear.requestRedraw }
    | .draw => { m.peripherals with screen := (m.outcome .draw op).screen }
    | .awaitKey =>
        { m.peripherals with
          awaiting := if m.registers.pressedKey = none then some op.x else none }
    | .setDelay => { m.peripherals with delay := ⟨m.registers.get op.x⟩ }
    | .setSound => { m.peripherals with sound := ⟨m.registers.get op.x⟩ }
    | _ => m.peripherals
  := by
  cases i with
  | awaitKey =>
      cases pressed : m.registers.pressedKey with
      | none =>
          rw [outcome_awaitKey_of_none op pressed]
          rfl
      | some key =>
          rw [outcome_awaitKey_of_some op pressed]
          rfl
  | loadRegisters =>
      have kept : (m.load (Action.registersTo op.x) m.registers.i.value).peripherals =
          m.peripherals := by rw [m.load_eq, peripherals, peripherals]
      exact kept
  | _ => rfl

theorem outcome_screen (m : Machine) {i : Instruction} (op : Opcode)
    (other : i ∉ [.clearScreen, .draw]) :
  (m.outcome i op).screen = m.screen
  := by
  have key := congrArg Peripherals.screen (m.outcome_peripherals i op)
  cases i with
  | clearScreen => exact absurd (by decide) other
  | draw => exact absurd (by decide) other
  | _ => exact key

theorem outcome_delay (m : Machine) {i : Instruction} (op : Opcode) (other : i ≠ .setDelay) :
  (m.outcome i op).delay = m.delay
  := by
  have key := congrArg Peripherals.delay (m.outcome_peripherals i op)
  cases i with
  | setDelay => exact absurd rfl other
  | _ => exact key

theorem outcome_sound (m : Machine) {i : Instruction} (op : Opcode) (other : i ≠ .setSound) :
  (m.outcome i op).sound = m.sound
  := by
  have key := congrArg Peripherals.sound (m.outcome_peripherals i op)
  cases i with
  | setSound => exact absurd rfl other
  | _ => exact key

theorem outcome_awaiting (m : Machine) {i : Instruction} (op : Opcode) (other : i ≠ .awaitKey) :
  (m.outcome i op).awaiting = m.awaiting
  := by
  have key := congrArg Peripherals.awaiting (m.outcome_peripherals i op)
  cases i with
  | awaitKey => exact absurd rfl other
  | _ => exact key

end Machine

/-! ### Serving the peripherals -/

namespace BuzzerChannel

theorem playing_play (p : BuzzerChannel) :
  p.play.playing = true
  := by
  rw [play]
  split
  · assumption
  · rfl

theorem playing_stop (p : BuzzerChannel) :
  p.stop.playing = false
  := by
  rw [stop]
  split
  · rfl
  · next silent => exact Bool.eq_false_iff.mpr silent

end BuzzerChannel

namespace Processor

/-- Serving the peripherals presents the screen, counts down the timers and reads the keys, and
keeps everything else of the machine. -/
theorem served_machine (c : Processor) :
  ∃ keys, c.served.machine =
    { c.machine with
      screen := c.presented.machine.screen
      delay := ⟨c.machine.delay.value - 1⟩
      sound := ⟨c.machine.sound.value - 1⟩
      registers := { c.machine.registers with keys := keys } }
  := by
  obtain ⟨keys, read⟩ := readKeys_machine c.presented.delayed.buzzed
  use keys
  have presented : c.presented.machine =
      { c.machine with screen := c.presented.machine.screen } := by
    rw [Processor.presented]
    split <;> rfl
  have buzzed : c.presented.delayed.buzzed.machine =
      { c.presented.delayed.machine with sound := ⟨c.machine.sound.value - 1⟩ } := by
    have same : c.presented.delayed.machine.sound = c.machine.sound := by rw [delayed, presented]
    rw [Processor.buzzed, same]
    cases running : c.machine.sound.ticking with
    | true => rfl
    | false =>
        have zero : c.machine.sound.value = 0 := Nat.eq_zero_of_not_pos (of_decide_eq_false running)
        rw [zero, Nat.zero_sub, ← zero]
        show c.presented.delayed.machine = _
        rw [delayed, presented]
  show c.presented.delayed.buzzed.readKeys.machine = _
  rw [read, buzzed, delayed, presented]

/-- The buzzer is on after a tick exactly if the sound timer was running before it was counted
down. -/
theorem served_playing (c : Processor) :
  c.served.buzzerChannel.playing = c.machine.sound.ticking
  := by
  have same : c.presented.delayed.machine.sound = c.machine.sound := by
    rw [delayed, presented]
    split <;> rfl
  show c.presented.delayed.buzzed.buzzerChannel.playing = _
  rw [buzzed, same]
  cases c.machine.sound.ticking with
  | true => apply BuzzerChannel.playing_play
  | false => apply BuzzerChannel.playing_stop

/-! ### What a request does -/

/-- A tick either fails, and leaves what its step left, or it carries out the instruction that is
found, and serves the peripherals. -/
theorem tick_cases {c : Processor} (h : c.machine.InBounds) :
  (∃ e, c.machine.fault? = some e ∧ c.tick = .error e c.stepped ∧ c.executed? .tick = none ∧
      c.after .tick = c.stepped) ∨
    ∃ i, c.machine.fault? = none ∧ c.machine.next? = some i ∧
      c.stepped.machine = c.machine.outcome i (.ofWord c.machine.word) ∧
      c.tick = .ok () c.stepped.served ∧
      c.executed? .tick = some ⟨c.machine.registers.pc.value, i⟩ ∧
      c.after .tick = c.stepped.served
  := by
  have ended := tick_eq h
  cases fault : c.machine.fault? with
  | some e =>
      left
      rw [fault] at ended
      use e, rfl, ended
      rw [after, executed?, serve, ended]
      exact ⟨rfl, rfl⟩
  | none =>
      right
      rw [fault] at ended
      obtain ⟨i, found, carried⟩ := Machine.stepped_of_sound fault
      have progress : c.stepped.served.progress = c.stepped.progress :=
        congrArg (fun k => k.2.2) (served_control c.stepped)
      use i, rfl, found, carried, ended
      rw [after, executed?, serve, ended]
      constructor
      · rw [ending, carriedOut, progress, stepped_progress, found]
        rfl
      · rfl

/-- A published snapshot changes nothing but the key channel. -/
theorem after_publish_eq (c : Processor) (states : List Bool) :
  c.after (.publish states) = { c with keyChannel := (c.after (.publish states)).keyChannel }
  := by
  show left (c.publish states) = { c with keyChannel := (left (c.publish states)).keyChannel }
  rw [publish]
  cases c.keyChannel.publish states with
  | ok channel => rfl
  | error e => rfl

/-! ### Rows of ticks -/

/-- Every tick among the requests starts in a state with a property. -/
def EachTick (c : Processor) (rs : List Request) (P : Processor → Prop) : Prop :=
  ∀ before, before ++ [.tick] <+: rs → P (c.play before)

/-- A tick that starts in the state completes. -/
def CompletesTick (c : Processor) : Prop := ∃ d, c.tick = .ok () d

theorem play_concat (c : Processor) (rs : List Request) (r : Request) :
  c.play (rs ++ [r]) = (c.play rs).after r
  := List.foldl_concat after c r rs

theorem eachTick_nil (c : Processor) (P : Processor → Prop) :
  c.EachTick [] P
  := by
  intro before begins
  simp at begins

theorem eachTick_concat {c : Processor} {rs : List Request} {r : Request}
    {P : Processor → Prop} :
  c.EachTick (rs ++ [r]) P ↔ c.EachTick rs P ∧ (r = .tick → P (c.play rs))
  := by
  constructor
  · intro each
    constructor
    · intro before begins
      apply each before (begins.trans (List.prefix_append rs [r]))
    · rintro rfl
      apply each rs (List.prefix_refl _)
  · rintro ⟨each, last⟩ before begins
    rcases List.prefix_concat_iff.mp begins with same | begins
    · obtain ⟨rfl, ends⟩ := List.append_inj' same rfl
      apply last (List.singleton_inj.mp ends).symm
    · apply each before begins

end Processor

end Chip8
