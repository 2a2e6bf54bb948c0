import Chip8.Proofs.Failure
import Chip8.Proofs.Interleaving
import Chip8.Proofs.Keys

/-!
# Runs and their ticks

A run of a processor that was not asked to stop makes its ticks one after the other
(`Processor.tickTimes`), waits after each of them, and switches the buzzer off in the end. How long
it waits depends on the number of the tick only (`Processor.canWaitAt`), so it breaks down at the
first tick that fails or that the next one is too far away from (`Processor.BreaksAfter`). A run that
is made in two parts switches the buzzer off in the middle as well, and takes other notes. No tick
sees this: ticks overlook whether the buzzer was left on and the journal (`Processor.quiet`), because
a buzzer that is switched off in the end is in the same state whether or not it was switched off
before.
-/

namespace Chip8

namespace BuzzerChannel

theorem stop_stop (p : BuzzerChannel) :
  p.stop.stop = p.stop
  := by
  have off := p.playing_stop
  rw [stop, off]
  rfl

/-- A buzzer that was switched on and off again has forgotten what it was before. -/
theorem stop_play (p : BuzzerChannel) :
  p.play.stop = ⟨false, .holding false⟩
  := by
  have on := p.playing_play
  rw [stop, on]
  rfl

end BuzzerChannel

namespace Processor

/-! ### What no part of a tick depends on -/

/-- What `forget` leaves out of a processor plays no part in its work: no part of a tick before the
reading of the keys depends on it. -/
class Passive (forget : Processor → Processor) : Prop where
  machine : ∀ c m, forget { c with machine := m } = { forget c with machine := m }
  progress : ∀ c p, forget { c with progress := p } = { forget c with progress := p }
  live : ∀ c, (forget c).live = c.live
  note : ∀ {c d} level component message, forget c = forget d →
    forget (c.note level component message) = forget (d.note level component message)
  play : ∀ {c d}, forget c = forget d →
    forget { c with buzzerChannel := c.buzzerChannel.play } =
      forget { d with buzzerChannel := d.buzzerChannel.play }
  silence : ∀ {c d}, forget c = forget d → forget c.silence = forget d.silence

section

variable {forget : Processor → Processor} [passive : Passive forget]

theorem Passive.same_machine {c d : Processor} (same : forget c = forget d) :
  c.machine = d.machine
  := by
  have own : ∀ c, (forget c).machine = c.machine := fun c =>
    congrArg (fun e => e.machine) (passive.machine c c.machine)
  rw [← own c, same, own d]

theorem Passive.same_progress {c d : Processor} (same : forget c = forget d) :
  c.progress = d.progress
  := by
  have own : ∀ c, (forget c).progress = c.progress := fun c =>
    congrArg (fun e => e.progress) (passive.progress c c.progress)
  rw [← own c, same, own d]

theorem Passive.withMachine {c d : Processor} (same : forget c = forget d) (m : Machine) :
  forget { c with machine := m } = forget { d with machine := m }
  := by
  calc forget { c with machine := m }
    _ = { forget c with machine := m } := passive.machine c m
    _ = { forget d with machine := m } := by rw [same]
    _ = forget { d with machine := m } := (passive.machine d m).symm

theorem Passive.withProgress {c d : Processor} (same : forget c = forget d) (p : Progress) :
  forget { c with progress := p } = forget { d with progress := p }
  := by
  calc forget { c with progress := p }
    _ = { forget c with progress := p } := passive.progress c p
    _ = { forget d with progress := p } := by rw [same]
    _ = forget { d with progress := p } := (passive.progress d p).symm

instance overlooks_onMachine {α : Type} (a : Action α) : Overlooks forget (onMachine a) where
  alike {c d} same := by
    rw [onMachine, onMachine, passive.same_machine same]
    cases a d.machine with
    | ok x m => exact congrArg (EStateM.Result.ok x) (passive.withMachine same m)
    | error e m => exact congrArg (EStateM.Result.error e) (passive.withMachine same m)

instance overlooks_lookup (word : Nat) : Overlooks forget (lookup word) where
  alike same := by
    rw [lookup, lookup]
    cases Instruction.table.lookup word with
    | ok e => exact congrArg (EStateM.Result.ok e) same
    | error e => exact congrArg (EStateM.Result.error e) same

instance overlooks_noteLive (word : Nat) (e : Entry Instruction) :
    Overlooks forget (noteLive word e) where
  alike {c d} same := by
    have live : c.live = d.live := by rw [← passive.live c, same, passive.live d]
    apply congrArg (EStateM.Result.ok ())
    dsimp only
    rw [live, passive.same_machine same]
    split
    · apply passive.note _ _ _ same
    · exact same

/-- The progress may be noted in any way that depends on the machine and the progress only. -/
theorem overlooks_progress (f : Machine → Progress → Progress) :
  Overlooks forget (modify fun c => { c with progress := f c.machine c.progress } :
    ProcessorAction Unit)
  where
  alike {c d} same := by
    have noted : f c.machine c.progress = f d.machine d.progress := by
      rw [passive.same_machine same, passive.same_progress same]
    apply congrArg (EStateM.Result.ok ())
    dsimp only
    rw [← noted]
    apply passive.withProgress same

instance overlooks_step : Overlooks forget step := by
  have begun := @overlooks_progress forget _ fun m _ => ⟨m.registers.pc.value, none, none⟩
  have known := fun word =>
    @overlooks_progress forget _ fun _ p => { p with word := some word }
  have found := fun e : Entry Instruction =>
    @overlooks_progress forget _ fun _ p => { p with instruction := some e.meaning }
  unfold step
  infer_instance

instance overlooks_present : Overlooks forget present := overlooks_onMachine _

instance overlooks_countDelay : Overlooks forget countDelay := overlooks_onMachine _

instance overlooks_serveBuzzer : Overlooks forget serveBuzzer := by
  have played : Overlooks forget (modify fun c : Processor =>
      { c with buzzerChannel := c.buzzerChannel.play } : ProcessorAction Unit) :=
    ⟨fun same => congrArg (EStateM.Result.ok ()) (passive.play same)⟩
  have silenced : Overlooks forget (modify silence : ProcessorAction Unit) :=
    ⟨fun same => congrArg (EStateM.Result.ok ()) (passive.silence same)⟩
  apply overlooks_get_bind
  · intro c d same
    rw [passive.same_machine same]
  · intro c
    split
    · infer_instance
    · exact silenced

instance overlooks_count : Overlooks forget Joint.count := by
  unfold Joint.count
  infer_instance

instance overlooks_begun (p : ProcessorMove) : Overlooks forget (begun p) := by
  unfold begun
  split <;> infer_instance

theorem breakdownFor_of_passive {c d : Processor} (same : forget c = forget d) (e : Fault) :
  c.breakdownFor e = d.breakdownFor e
  := by
  rw [breakdownFor, breakdownFor, haltFor, haltFor, passive.same_machine same,
    passive.same_progress same]

end

/-- The processor without what the parts of a tick overlook before the keys are read: the keys that
wait, the request to stop, whether the buzzer was left on, and the journal. -/
def hushed (c : Processor) : Processor :=
  { c.silence with keyChannel := .empty, stopRequested := false, journal := #[] }

instance passive_hushed : Passive hushed where
  machine _ _ := rfl
  progress _ _ := rfl
  live _ := rfl
  note _ _ _ same := same
  play {c d} same := by
    rw [hushed, hushed, silence, silence, BuzzerChannel.stop_play, BuzzerChannel.stop_play]
    exact congrArg (fun e : Processor => { e with buzzerChannel := ⟨false, .holding false⟩ }) same
  silence {c d} same := by
    rw [hushed, hushed, silence, silence, silence, silence, BuzzerChannel.stop_stop,
      BuzzerChannel.stop_stop]
    exact same

/-! ### What no tick depends on -/

/-- The processor without notes. -/
def unlogged (c : Processor) : Processor := { c with journal := #[] }

/-- The processor without what ticks overlook: whether the buzzer was left on, and the journal. -/
def quiet (c : Processor) : Processor := c.silence.unlogged

theorem quiet_eq_iff {c d : Processor} :
  c.quiet = d.quiet ↔ c.hushed = d.hushed ∧ c.told = d.told
  := by
  constructor
  · intro same
    constructor
    · exact congrArg
        (fun e : Processor => { e with keyChannel := .empty, stopRequested := false }) same
    · exact congrArg (fun e => e.told) same
  · rintro ⟨same, told⟩
    calc c.quiet
      _ = { c.hushed with keyChannel := c.told.1, stopRequested := c.told.2 } := rfl
      _ = { d.hushed with keyChannel := d.told.1, stopRequested := d.told.2 } := by
          rw [same, told]

theorem overlooks_quiet {α : Type} {a : ProcessorAction α} [Isolated a] [Overlooks hushed a] :
  Overlooks quiet a
  where
  alike {c d} same := by
    obtain ⟨same, told⟩ := quiet_eq_iff.mp same
    cases ended : a d with
    | ok x d' =>
        obtain ⟨c', ended', same'⟩ := Overlooks.of_ok same ended
        have told' : c'.told = d'.told :=
          (Keeps.of_ok ended').trans (told.trans (Keeps.of_ok ended).symm)
        rw [ended']
        exact congrArg (EStateM.Result.ok x) (quiet_eq_iff.mpr ⟨same', told'⟩)
    | error e d' =>
        obtain ⟨c', ended', same'⟩ := Overlooks.of_error same ended
        have told' : c'.told = d'.told :=
          (Keeps.of_error ended').trans (told.trans (Keeps.of_error ended).symm)
        rw [ended']
        exact congrArg (EStateM.Result.error e) (quiet_eq_iff.mpr ⟨same', told'⟩)

instance overlooks_tick : Overlooks quiet tick := by
  have begins : Overlooks quiet (begun .readKeys) := overlooks_quiet
  have ends : Overlooks quiet finishTick := overlooks_modify completed fun _ => rfl
  rw [tick_eq_begun]
  infer_instance

/-! ### What no part of a tick changes -/

/-- Whether a processor that has completed a number of ticks can wait for the next one. -/
def canWaitAt (c : Processor) (ticks : Nat) : Bool := c.interval.all (c.clock.canWait ticks)

/-- What the parts of a tick leave before the keys are read: the number of ticks, the keys, and how
long can be waited. -/
def tally (c : Processor) : Nat × KeySnapshot × (Nat → Bool) :=
  (c.ticks, c.machine.keys, c.canWaitAt)

section

variable {α : Type} {a : ProcessorAction α}

instance keeps_ticks [kept : Keeps tally a] : Keeps Processor.ticks a where
  kept c := congrArg Prod.fst (kept.kept c)

instance keeps_canWaitAt [kept : Keeps tally a] : Keeps canWaitAt a where
  kept c := congrArg (fun t => t.2.2) (kept.kept c)

theorem keys_of_ok [Keeps tally a] {c d : Processor} {x : α} (ended : a c = .ok x d) :
  d.machine.keys = c.machine.keys
  := by
  have kept : d.tally = c.tally := Keeps.of_ok ended
  exact congrArg (fun t => t.2.1) kept

end

instance keeps_onMachine {α : Type} {a : Action α} [kept : Keeps Machine.keys a] :
    Keeps tally (onMachine a) where
  kept c := by
    rw [left_onMachine]
    exact congrArg (fun keys => (c.ticks, keys, c.canWaitAt)) (kept.kept c.machine)

instance keeps_lookup (word : Nat) : Keeps tally (lookup word) where
  kept c := by
    rw [lookup]
    cases Instruction.table.lookup word with
    | ok e => rfl
    | error e => rfl

instance keeps_noteLive (word : Nat) (e : Entry Instruction) : Keeps tally (noteLive word e) := by
  apply keeps_modify
  intro c
  split <;> rfl

instance keeps_step : Keeps tally step := by
  have noted : ∀ f : Processor → Progress, Keeps tally
      (modify fun c => { c with progress := f c } : ProcessorAction Unit) :=
    fun _ => keeps_modify fun _ => rfl
  unfold step Machine.fetch
  infer_instance

instance keeps_present : Keeps tally present := by
  have drawn : Keeps Machine.keys (Action.exchange fun m => do
      let (drawn, screen) ← m.screen.draw
      return (drawn, { m with screen := screen })) :=
    @Action.keeps_exchange _ _ _ _ (fun m => m.screen.draw)
      (fun m screen => { m with screen := screen }) fun _ _ => rfl
  exact keeps_onMachine

instance keeps_countDelay : Keeps tally countDelay where
  kept c := by
    rw [countDelay, left_onMachine, Action.change]
    cases c.machine.delay.ticking with
    | false => rfl
    | true =>
        rw [if_pos rfl]
        cases Timer.countDown c.machine.delay with
        | ok t => rfl
        | error e => rfl

instance keeps_serveBuzzer : Keeps tally serveBuzzer := by
  have switched : ∀ f : Processor → BuzzerChannel, Keeps tally
      (modify fun c => { c with buzzerChannel := f c } : ProcessorAction Unit) :=
    fun _ => keeps_modify fun _ => rfl
  have silenced : Keeps tally (modify silence : ProcessorAction Unit) := switched _
  have counted : Keeps Machine.keys (Action.change fun m => do
      return { m with sound := ← Timer.countDown m.sound }) :=
    Action.keeps_change fun _ _ _ => rfl
  unfold serveBuzzer
  infer_instance

instance keeps_count : Keeps tally Joint.count := by
  unfold Joint.count
  infer_instance

instance keeps_begun (p : ProcessorMove) : Keeps tally (begun p) := by
  unfold begun
  split <;> infer_instance

/-- A tick counts if it completes. -/
theorem ticks_of_tick {c d : Processor} (ticked : c.tick = .ok () d) :
  d.ticks = c.ticks + 1
  := by
  obtain ⟨m, reached, rfl⟩ := tick_eq_ok_iff.mp ticked
  exact congrArg Nat.succ (Keeps.of_ok reached)

theorem ticks_of_tick_error {c d : Processor} {e : Fault} (failed : c.tick = .error e d) :
  d.ticks = c.ticks
  := Keeps.of_error (tick_eq_error_iff.mp failed)

instance keeps_stopRequested {α : Type} {a : ProcessorAction α} [isolated : Isolated a] :
    Keeps Processor.stopRequested a where
  kept c := congrArg Prod.snd (isolated.told c)

/-- No tick asks the processor to stop. -/
instance keeps_tick : Keeps Processor.stopRequested tick := by
  have ends : Keeps Processor.stopRequested finishTick := keeps_modify fun _ => rfl
  rw [tick_eq_begun]
  infer_instance

/-- No tick changes how long can be waited. -/
instance keeps_tick_canWaitAt : Keeps canWaitAt tick := by
  have ends : Keeps canWaitAt finishTick := keeps_modify fun _ => rfl
  rw [tick_eq_begun]
  infer_instance

/-! ### One after the other -/

section

variable {ε σ : Type}

/-- An action that is repeated a number of times, unless it fails. -/
def repeated (a : EStateM ε σ Unit) : Nat → EStateM ε σ Unit
  | 0 => return ()
  | n + 1 => do
      a
      repeated a n

variable {a : EStateM ε σ Unit}

theorem repeated_add (m n : Nat) :
  repeated a (m + n) = (repeated a m >>= fun _ => repeated a n)
  := by
  induction m with
  | zero => rw [Nat.zero_add, repeated, pure_bind]
  | succ m ih => rw [Nat.succ_add, repeated, repeated, ih, bind_assoc]

theorem repeated_succ (n : Nat) :
  repeated a (n + 1) = (repeated a n >>= fun _ => a)
  := by
  rw [repeated_add]
  congr
  funext _
  exact bind_pure_unit

/-- What was done a number of times was done fewer times before. -/
theorem repeated_before {m n : Nat} (less : m ≤ n) {s t : σ} (made : repeated a n s = .ok () t) :
  ∃ s', repeated a m s = .ok () s'
  := by
  obtain ⟨rest, rfl⟩ := Nat.exists_eq_add_of_le less
  rw [repeated_add] at made
  cases first : repeated a m s with
  | ok u s' => exact ⟨s', rfl⟩
  | error e s' =>
      rw [bind_of_error first] at made
      cases made

instance overlooks_repeated {τ : Type} {forget : σ → τ} [Overlooks forget a] (n : Nat) :
    Overlooks forget (repeated a n) := by
  induction n with
  | zero => exact overlooks_pure ()
  | succ n ih =>
      unfold repeated
      infer_instance

instance keeps_repeated {τ : Type} {f : σ → τ} [Keeps f a] (n : Nat) :
    Keeps f (repeated a n) := by
  induction n with
  | zero => exact keeps_pure ()
  | succ n ih =>
      unfold repeated
      infer_instance

end

/-! ### Ticks -/

/-- A number of ticks, unless one of them fails. -/
abbrev tickTimes (n : Nat) : ProcessorAction Unit := repeated tick n

theorem stopRequested_of_tickTimes {n : Nat} {c d : Processor} (made : tickTimes n c = .ok () d) :
  d.stopRequested = c.stopRequested
  := Keeps.of_ok made

theorem canWaitAt_of_tickTimes {n : Nat} {c d : Processor} (made : tickTimes n c = .ok () d) :
  d.canWaitAt = c.canWaitAt
  := Keeps.of_ok made

/-- Ticks that complete are counted. -/
theorem ticks_of_tickTimes {n : Nat} {c d : Processor} (made : tickTimes n c = .ok () d) :
  d.ticks = c.ticks + n
  := by
  induction n generalizing c with
  | zero =>
      cases made
      rfl
  | succ n ih =>
      rw [tickTimes, repeated] at made
      cases ticked : c.tick with
      | ok x m =>
          rw [bind_of_ok ticked] at made
          rw [ih made, ticks_of_tick ticked, Nat.add_assoc, Nat.add_comm 1 n]
      | error e m =>
          rw [bind_of_error ticked] at made
          cases made

/-- Whether the next tick can be waited for after ticks depends on their number only. -/
theorem canWait_of_tickTimes {n : Nat} {c d : Processor} (made : tickTimes n c = .ok () d) :
  d.canWait = c.canWaitAt (c.ticks + n)
  := by
  show d.canWaitAt d.ticks = _
  rw [canWaitAt_of_tickTimes made, ticks_of_tickTimes made]

/-- What ticks leave is paced like what was there before them. -/
theorem paced_of_tickTimes {n : Nat} {c d cpu : Processor} (made : tickTimes n c = .ok () d)
    (same : cpu.tally = d.tally) :
  cpu.ticks = c.ticks + n ∧ cpu.canWaitAt = c.canWaitAt
  := by
  constructor
  · exact (congrArg Prod.fst same).trans (ticks_of_tickTimes made)
  · exact (congrArg (fun t => t.2.2) same).trans (canWaitAt_of_tickTimes made)

theorem tick_inBounds {c d : Processor} (h : c.machine.InBounds) (ticked : c.tick = .ok () d) :
  d.machine.InBounds
  := by
  have key := after_inBounds h .tick
  rw [after, serve, ticked] at key
  exact key

theorem tickTimes_inBounds {n : Nat} {c d : Processor} (h : c.machine.InBounds)
    (made : tickTimes n c = .ok () d) :
  d.machine.InBounds
  := by
  induction n generalizing c with
  | zero =>
      cases made
      exact h
  | succ n ih =>
      rw [tickTimes, repeated] at made
      cases ticked : c.tick with
      | ok x m =>
          rw [bind_of_ok ticked] at made
          apply ih (tick_inBounds h ticked) made
      | error e m =>
          rw [bind_of_error ticked] at made
          cases made

/-- After `k` ticks of `c`, which left `m`, the next one fails for `e` and leaves `d`. -/
structure FailsAfter (c : Processor) (k : Nat) (m : Processor) (e : Fault) (d : Processor) :
    Prop where
  made : tickTimes k c = .ok () m
  failed : m.tick = .error e d

namespace FailsAfter

variable {c m d : Processor} {k : Nat} {e : Fault}

/-- The tick that fails is not counted. -/
theorem ticks (h : FailsAfter c k m e d) :
  d.ticks = c.ticks + k
  := (ticks_of_tick_error h.failed).trans (ticks_of_tickTimes h.made)

theorem stopRequested (h : FailsAfter c k m e d) :
  d.stopRequested = c.stopRequested
  := (Keeps.of_error h.failed).trans (stopRequested_of_tickTimes h.made)

theorem paced (h : FailsAfter c k m e d) {cpu : Processor} (same : cpu.tally = d.tally) :
  cpu.ticks = c.ticks + k ∧ cpu.canWaitAt = c.canWaitAt
  := by
  constructor
  · exact (congrArg Prod.fst same).trans h.ticks
  · calc cpu.canWaitAt
      _ = d.canWaitAt := congrArg (fun t => t.2.2) same
      _ = m.canWaitAt := Keeps.of_error h.failed
      _ = c.canWaitAt := canWaitAt_of_tickTimes h.made

end FailsAfter

/-- Either all of the ticks complete, or there is a first one that fails. -/
theorem tickTimes_cases (n : Nat) (c : Processor) :
  (∃ d, tickTimes n c = .ok () d) ∨ ∃ k < n, ∃ m e d, FailsAfter c k m e d
  := by
  induction n with
  | zero => exact .inl ⟨c, rfl⟩
  | succ n ih =>
      rcases ih with ⟨m, made⟩ | ⟨k, less, fails⟩
      · cases ticked : m.tick with
        | ok x d =>
            left
            use d
            rw [tickTimes, repeated_succ, bind_of_ok made, ticked]
        | error e d => exact .inr ⟨n, Nat.lt_succ_self n, m, e, d, made, ticked⟩
      · exact .inr ⟨k, Nat.lt_succ_of_lt less, fails⟩

/-! ### Waits -/

/-- After each of the first `k` ticks of `c` the next one can be waited for. -/
def Waits (c : Processor) (k : Nat) : Prop :=
  ∀ i, 0 < i → i ≤ k → c.canWaitAt (c.ticks + i) = true

theorem waits_zero (c : Processor) :
  c.Waits 0
  := fun _ positive none => absurd none (Nat.not_le_of_lt positive)

theorem waits_succ_iff {c : Processor} {k : Nat} :
  c.Waits (k + 1) ↔ c.Waits k ∧ c.canWaitAt (c.ticks + (k + 1)) = true
  := by
  constructor
  · intro waits
    exact ⟨fun i positive least => waits i positive (Nat.le_succ_of_le least),
      waits (k + 1) (Nat.succ_pos k) (Nat.le_refl _)⟩
  · rintro ⟨waits, last⟩ i positive least
    rcases Nat.le_succ_iff.mp least with least | rfl
    · exact waits i positive least
    · exact last

/-- Either the next tick can be waited for after each of the ticks, or there is a first one after
which it is too far away. -/
theorem waits_cases (c : Processor) (k : Nat) :
  c.Waits k ∨ ∃ i < k, c.Waits i ∧ c.canWaitAt (c.ticks + (i + 1)) = false
  := by
  induction k with
  | zero => exact .inl c.waits_zero
  | succ k ih =>
      rcases ih with waits | ⟨i, less, first⟩
      · cases last : c.canWaitAt (c.ticks + (k + 1)) with
        | true => exact .inl (waits_succ_iff.mpr ⟨waits, last⟩)
        | false => exact .inr ⟨k, Nat.lt_succ_self k, waits, last⟩
      · exact .inr ⟨i, Nat.lt_succ_of_lt less, first⟩

instance overlooks_wait : Overlooks quiet wait where
  alike {c d} same := by
    have stop : c.stopRequested = d.stopRequested := congrArg (fun e => e.stopRequested) same
    have near : c.canWait = d.canWait := congrArg (fun e => e.canWait) same
    rw [wait, wait, stop, near]
    split
    · exact congrArg (EStateM.Result.ok ()) same
    · exact congrArg (EStateM.Result.error _) same

/-! ### Laps -/

instance overlooks_lap : Overlooks quiet lap where
  alike {c d} same := by
    rw [lap, lap]
    cases ticked : d.tick with
    | ok u d' =>
        obtain ⟨c', ticked', same'⟩ := Overlooks.of_ok same ticked
        rw [ticked']
        exact Overlooks.alike (a := wait) same'
    | error e d' =>
        obtain ⟨c', ticked', same'⟩ := Overlooks.of_error same ticked
        rw [ticked']
        dsimp only
        rw [breakdownFor_of_passive (quiet_eq_iff.mp same').1]
        exact congrArg (EStateM.Result.error _) same'

instance keeps_lap : Keeps Processor.stopRequested lap where
  kept c := by
    have kept : (left c.tick).stopRequested = c.stopRequested := keeps_tick.kept c
    rw [lap]
    cases ticked : c.tick with
    | error e d =>
        rw [ticked] at kept
        exact kept
    | ok u d =>
        rw [ticked] at kept
        dsimp only
        rw [wait]
        split <;> exact kept

/-- A number of laps, unless one of them breaks down. -/
abbrev lapTimes (n : Nat) : RunAction Unit := repeated lap n

/-- A row of laps ends like its ticks if they can be waited for. -/
theorem lapTimes_eq_ok {c : Processor} {n : Nat} {d : Processor} (made : tickTimes n c = .ok () d)
    (waits : c.Waits n) :
  lapTimes n c = .ok () d
  := by
  induction n generalizing d with
  | zero =>
      cases made
      rfl
  | succ n ih =>
      obtain ⟨waits, last⟩ := waits_succ_iff.mp waits
      obtain ⟨m, before⟩ := repeated_before (Nat.le_succ n) made
      have near : d.canWait = true := (canWait_of_tickTimes made).trans last
      rw [tickTimes, repeated_succ, bind_of_ok before] at made
      rw [lapTimes, repeated_succ, bind_of_ok (ih before waits)]
      exact lap_eq_ok_iff.mpr ⟨made, .inr near⟩

/-- After `k` laps of `c` the next one breaks down with `b` and leaves `d`. -/
def BreaksAfter (c : Processor) (k : Nat) (b : Breakdown) (d : Processor) : Prop :=
  ∃ m, lapTimes k c = .ok () m ∧ m.lap = .error b d

section

variable {c m d : Processor} {k n : Nat}

/-- A processor breaks down at a tick that fails. -/
theorem breaksAfter_of_failsAfter {e : Fault} (fails : FailsAfter c k m e d) (waits : c.Waits k) :
  c.BreaksAfter k (d.breakdownFor e) d
  := ⟨m, lapTimes_eq_ok fails.made waits, lap_eq_error_iff.mpr (.inl ⟨e, fails.failed, rfl⟩)⟩

variable (clear : c.stopRequested = false)

include clear

/-- A processor breaks down after a tick that the next one is too far away from. -/
theorem breaksAfter_of_far (made : tickTimes (k + 1) c = .ok () d) (waits : c.Waits k)
    (far : c.canWaitAt (c.ticks + (k + 1)) = false) :
  c.BreaksAfter k .endlessWait d
  := by
  obtain ⟨m, before⟩ := repeated_before (Nat.le_succ k) made
  have still : d.stopRequested = false := (stopRequested_of_tickTimes made).trans clear
  have endless : d.canWait = false := (canWait_of_tickTimes made).trans far
  rw [tickTimes, repeated_succ, bind_of_ok before] at made
  exact ⟨m, lapTimes_eq_ok before waits, lap_eq_error_iff.mpr (.inr ⟨made, still, endless, rfl⟩)⟩

/-! ### Runs -/

/-- Without a request to stop, the laps that are allowed are made. -/
theorem tickUpTo_eq (n : Nat) :
  tickUpTo n c = lapTimes n c
  := by
  induction n generalizing c with
  | zero => rfl
  | succ n ih =>
      rw [tickUpTo_succ, clear, if_neg Bool.false_ne_true, lapTimes, repeated]
      cases lapped : c.lap with
      | ok x d =>
          rw [bind_of_ok lapped]
          apply ih
          exact (Keeps.of_ok lapped).trans clear
      | error b d => rw [bind_of_error lapped]

/-- After a breakdown no other ticks are made. -/
theorem BreaksAfter.tickUpTo {b : Breakdown} (breaks : c.BreaksAfter k b d) (less : k < n) :
  tickUpTo n c = .error b d
  := by
  obtain ⟨m, made, broken⟩ := breaks
  obtain ⟨rest, rfl⟩ := Nat.exists_eq_add_of_lt less
  rw [tickUpTo_eq clear, Nat.add_assoc, lapTimes, repeated_add, bind_of_ok made, repeated,
    bind_of_error broken]

theorem run_eq (n : Nat) :
  c.run n = conclude c.ticks (lapTimes n c.started)
  := by rw [run, tickUpTo_eq (c := c.started) clear]

theorem run_of_ok (made : tickTimes n c.started = .ok () d) (waits : c.Waits n) :
  c.run n = (.ok (), d.stopped n)
  := by
  have all : d.ticks - c.ticks = n := by
    rw [ticks_of_tickTimes made]
    exact Nat.add_sub_cancel_left _ _
  rw [run_eq clear, lapTimes_eq_ok (c := c.started) made waits, conclude, all]

theorem run_of_breaksAfter {b : Breakdown} (breaks : c.started.BreaksAfter k b d) (less : k < n) :
  c.run n = (.error b, d.broken b)
  := by rw [run, breaks.tickUpTo (c := c.started) clear less, conclude]

end

/-- A processor that was asked to stop makes no ticks. -/
theorem tickUpTo_of_stopRequested {c : Processor} (stopping : c.stopRequested = true) (n : Nat) :
  tickUpTo n c = .ok () c
  := by
  cases n with
  | zero => rfl
  | succ n => rw [tickUpTo_succ, if_pos stopping]

theorem run_of_stopRequested {c : Processor} (stopping : c.stopRequested = true) (n : Nat) :
  c.run n = (.ok (), c.started.stopped 0)
  := by
  rw [run, tickUpTo_of_stopRequested (c := c.started) stopping, conclude]
  have none : c.started.ticks - c.ticks = 0 := Nat.sub_self _
  rw [none]

/-! ### Runs one after the other -/

/-- Two runs, the second one if the first one did not break down. -/
def runTwice (a b : Nat) (c : Processor) : Except Breakdown Unit × Processor :=
  match c.run a with
  | (.ok _, d) => d.run b
  | (.error broken, d) => (.error broken, d)

/-- Laps that end alike let their runs end alike. -/
theorem conclude_alike {r r' : EStateM.Result Breakdown Processor Unit}
    (same : onState quiet r = onState quiet r') (before before' : Nat) :
  (conclude before r).1 = (conclude before' r').1 ∧
    (conclude before r).2.unlogged = (conclude before' r').2.unlogged
  := by
  cases r with
  | ok x c =>
      cases r' with
      | ok x' d =>
          injection same with _ same
          exact ⟨rfl, same⟩
      | error b d => cases same
  | error b c =>
      cases r' with
      | ok x' d => cases same
      | error b' d =>
          injection same with cause same
          obtain rfl := cause
          have alike : ∀ e : Processor, (e.broken b).unlogged = e.quiet := by
            intro e
            cases b <;> rfl
          exact ⟨rfl, (alike c).trans (same.trans (alike d).symm)⟩

/-- A run that is made in two parts ends as if it was made at once, but for the notes. -/
theorem runTwice_eq {c : Processor} (clear : c.stopRequested = false) (a b : Nat) :
  (runTwice a b c).1 = (c.run (a + b)).1 ∧
    (runTwice a b c).2.unlogged = (c.run (a + b)).2.unlogged
  := by
  rw [runTwice, run_eq clear, run_eq clear, lapTimes, lapTimes, repeated_add]
  cases made : repeated lap a c.started with
  | error e d =>
      rw [bind_of_error made]
      exact ⟨rfl, rfl⟩
  | ok x d =>
      let middle := d.stopped (d.ticks - c.ticks)
      have kept : d.stopRequested = c.started.stopRequested := Keeps.of_ok made
      have clear' : middle.stopRequested = false := kept.trans clear
      have same : middle.started.quiet = d.quiet := by
        show { d.silence.silence with journal := #[] } = { d.silence with journal := #[] }
        rw [silence, silence, BuzzerChannel.stop_stop]
      rw [bind_of_ok made, conclude]
      show (middle.run b).1 = _ ∧ (middle.run b).2.unlogged = _
      rw [run_eq clear']
      apply conclude_alike (Overlooks.alike same)

end Processor

end Chip8
