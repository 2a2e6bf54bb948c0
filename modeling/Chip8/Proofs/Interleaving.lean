import Chip8.Schedule
import Chip8.Proofs.Isolation

/-!
# Interleavings

A processor and a host make their moves in any order, and between the moves the user presses keys
and asks to quit (`Joint.Event`). What the processor does in between is the same as if it had made
the ticks one after the other: a tick counts when it completes, keys that are published in the
middle of a tick count before it, and then the processor has to itself what it has after these
requests (`Joint.linear_along`). This is so because no part of a tick depends on what the host
does before the tick reads the keys. A wait depends on the host, which may ask for a stop in the
meantime, but changes nothing.
-/

namespace Chip8

/-! ### Events -/

namespace Joint

/-- What happens while a processor and a host run side by side. -/
inductive Event where
  /-- One of them makes its next move. -/
  | move (t : Turn)
  /-- Whoever embeds the machine sets the state of the keyboard. -/
  | keyboard (down : KeySnapshot) (quitting : Bool)
  /-- The user makes events and holds keys down, if a window is open. -/
  | desktop (state : Desktop)

/-- The processor and the host after an event. -/
def happen (j : Joint) : Event → Joint
  | .move t => j.turn t
  | .keyboard down quitting =>
      let keyboard := { j.system.host.keyboard with down := down, quitting := quitting }
      { j with system := { j.system with host := { j.system.host with keyboard := keyboard } } }
  | .desktop state =>
      let desktop := j.system.host.desktop.map fun _ => state
      { j with system := { j.system with host := { j.system.host with desktop := desktop } } }

/-- The processor and the host after a row of events. -/
def along (j : Joint) (es : List Event) : Joint := es.foldl happen j

/-- What is seen in a row of events, the first one first. -/
def collect {α : Type} (seen : Joint → Event → Option α) (j : Joint) : List Event → List α
  | [] => []
  | e :: es => (seen j e).toList ++ (j.happen e).collect seen es

theorem along_concat (j : Joint) (es : List Event) (e : Event) :
  j.along (es ++ [e]) = (j.along es).happen e
  := List.foldl_concat happen j e es

theorem collect_concat {α : Type} (seen : Joint → Event → Option α) (j : Joint) (es : List Event)
    (e : Event) :
  j.collect seen (es ++ [e]) = j.collect seen es ++ (seen (j.along es) e).toList
  := by
  induction es generalizing j with
  | nil => exact List.append_nil _
  | cons e' es ih =>
      rw [List.cons_append, collect, collect, ih, List.append_assoc]
      rfl

/-- The request that is served by an event: the tick that it completes, or the keys that it
publishes. -/
def request? (j : Joint) : Event → Option Request
  | .move .cpu => if j.cpuMove = .readKeys then some .tick else none
  | .move .host =>
      match j.hostMove, j.system.host.keyboard.refresh j.system.host.desktop with
      | .publishKeys, .ok keyboard => some (.publish keyboard.down.toList)
      | _, _ => none
  | .keyboard .. | .desktop _ => none

/-- The requests that events serve. -/
abbrev requests (j : Joint) (es : List Event) : List Request := j.collect request? es

end Joint

/-! ### Moves of the host -/

namespace Host

theorem takeFrame_eq (s : System) :
  takeFrame s =
    .ok s.cpu.machine.screen.display.take.1
      { s with
        cpu := { s.cpu with
          machine := s.cpu.machine.withDisplay s.cpu.machine.screen.display.take.2 } }
  := rfl

theorem left_draw (f : Frame) (s : System) :
  left (draw f s) =
    { s with host := { s.host with renderer := left (Renderer.present f s.host.renderer) } }
  := by
  rw [draw]
  cases Renderer.present f s.host.renderer with
  | ok x renderer => rfl
  | error e renderer => rfl

/-- Showing a frame takes it from the display slot, and nothing else changes but the renderer. -/
theorem left_showFrame (s : System) :
  ∃ renderer, left (showFrame s) =
    { cpu := { s.cpu with
        machine := s.cpu.machine.withDisplay s.cpu.machine.screen.display.take.2 }
      host := { s.host with renderer := renderer } }
  := by
  rw [showFrame, bind_of_ok (takeFrame_eq s)]
  cases s.cpu.machine.screen.display.take.1 with
  | none => exact ⟨s.host.renderer, rfl⟩
  | some f => exact ⟨_, left_draw f _⟩

end Host

namespace Joint

theorem attempt_system (j : Joint) (a : HostAction Unit) (next : HostMove)
    (failed : HostError → HostMove) :
  (j.attempt a next failed).system = left (a j.system)
  := by
  rw [attempt]
  cases a j.system with
  | ok x s => rfl
  | error e s => rfl

theorem attempt_cpuMove (j : Joint) (a : HostAction Unit) (next : HostMove)
    (failed : HostError → HostMove) :
  (j.attempt a next failed).cpuMove = j.cpuMove
  := by
  rw [attempt]
  cases a j.system with
  | ok x s => rfl
  | error e s => rfl

/-- A move of the host leaves what the processor has to itself and the breakdown that was learned of,
and changes the key channel by the keys that it publishes only. -/
theorem hostTurn_cpu (j : Joint) :
  j.hostTurn.cpuMove = j.cpuMove ∧ j.hostTurn.system.cpu.bare = j.system.cpu.bare ∧
    j.hostTurn.system.host.lastBreakdown = j.system.host.lastBreakdown ∧
    ((j.request? (.move .host) = none ∧
        j.hostTurn.system.cpu.keyChannel = j.system.cpu.keyChannel) ∨
      ∃ keys : KeySnapshot, j.request? (.move .host) = some (.publish keys.toList) ∧
        j.hostTurn.system.cpu.keyChannel = j.system.cpu.keyChannel.deliver keys)
  := by
  rw [hostTurn, request?]
  cases j.hostMove with
  | check =>
      dsimp only
      split
      · exact ⟨rfl, rfl, rfl, .inl ⟨rfl, rfl⟩⟩
      · rw [Host.quitAsked]
        cases j.system.host.keyboard.asksToQuit j.system.host.desktop with
        | error e => exact ⟨rfl, rfl, rfl, .inl ⟨rfl, rfl⟩⟩
        | ok quit =>
            cases quit with
            | true => exact ⟨rfl, rfl, rfl, .inl ⟨rfl, rfl⟩⟩
            | false => exact ⟨rfl, rfl, rfl, .inl ⟨rfl, rfl⟩⟩
  | publishKeys =>
      rw [attempt_cpuMove, attempt_system, Host.publishKeys]
      cases j.system.host.keyboard.refresh j.system.host.desktop with
      | error e => exact ⟨rfl, rfl, rfl, .inl ⟨rfl, rfl⟩⟩
      | ok keyboard => exact ⟨rfl, rfl, rfl, .inr ⟨keyboard.down, rfl, rfl⟩⟩
  | showFrame =>
      obtain ⟨renderer, shown⟩ := Host.left_showFrame j.system
      rw [attempt_cpuMove, attempt_system, shown]
      exact ⟨rfl, rfl, rfl, .inl ⟨rfl, rfl⟩⟩
  | switchBuzzer =>
      rw [attempt_cpuMove, attempt_system]
      exact ⟨rfl, rfl, rfl, .inl ⟨rfl, rfl⟩⟩
  | leave error => exact ⟨rfl, rfl, rfl, .inl ⟨rfl, rfl⟩⟩
  | join error =>
      dsimp only
      split
      · exact ⟨rfl, rfl, rfl, .inl ⟨rfl, rfl⟩⟩
      · exact ⟨rfl, rfl, rfl, .inl ⟨rfl, rfl⟩⟩
  | showLast =>
      obtain ⟨renderer, shown⟩ := Host.left_showFrame j.system
      rw [attempt_cpuMove, attempt_system, shown]
      exact ⟨rfl, rfl, rfl, .inl ⟨rfl, rfl⟩⟩
  | finished error => exact ⟨rfl, rfl, rfl, .inl ⟨rfl, rfl⟩⟩

end Joint

/-! ### Ticks -/

namespace Processor

/-- What a tick has done when a move is next. -/
def begun : ProcessorMove → ProcessorAction Unit
  | .present => step
  | .count => do
      step
      let _ ← present
  | .readKeys => do
      step
      let _ ← present
      Joint.count
  | _ => return ()

theorem tick_eq_begun :
  tick = (begun .readKeys >>= fun _ => finishTick)
  := by
  rw [begun, Joint.count, tick]
  simp only [bind_assoc]

theorem begun_readKeys :
  begun .readKeys = (begun .count >>= fun _ => Joint.count)
  := by
  rw [begun, begun]
  simp only [bind_assoc, pure_bind]

instance isolated_count : Isolated Joint.count := by
  unfold Joint.count
  infer_instance

theorem count_screen (c : Processor) :
  (left (Joint.count c)).machine.screen = c.machine.screen
  := by
  apply bind_keeps (P := fun d : Processor => d.machine.screen = c.machine.screen)
  · intro d same
    rw [countDelay_screen, same]
  · intro _ d same
    rw [serveBuzzer_screen, same]
  · rfl

instance isolated_begun (p : ProcessorMove) : Isolated (begun p) := by
  unfold begun
  split <;> infer_instance

theorem Isolated.keyChannel_of_ok {α : Type} {a : ProcessorAction α} [h : Isolated a]
    {c d : Processor} {x : α} (ended : a c = .ok x d) :
  d.keyChannel = c.keyChannel
  := by
  have key := h.told c
  rw [ended] at key
  exact congrArg Prod.fst key

/-- The processor after it read the keys and completed the tick. -/
def completed (c : Processor) : Processor := { c.readKeys with ticks := c.ticks + 1 }

/-- Besides what the processor has to itself, the end of a tick depends on the keys only. -/
theorem completed_bare (c : Processor) :
  c.completed.bare =
    { c.bare with
      machine := { c.bare.machine with
        registers := (c.keyChannel.update c.bare.machine.registers).2 }
      ticks := c.bare.ticks + 1 }
  := rfl

theorem completed_keyChannel (c : Processor) :
  c.completed.keyChannel = (c.keyChannel.update c.bare.machine.registers).1
  := rfl

theorem breakdownFor_bare (c : Processor) (e : Fault) :
  c.bare.breakdownFor e = c.breakdownFor e
  := rfl

theorem reported_bare (c : Processor) (b : Breakdown) :
  (c.reported b).bare = c.bare
  := by cases b <;> rfl

theorem reported_machine (c : Processor) (b : Breakdown) :
  (c.reported b).machine = c.machine
  := by cases b <;> rfl

theorem reported_told (c : Processor) (b : Breakdown) :
  (c.reported b).told = c.told
  := by cases b <;> rfl

theorem canWait_bare (c : Processor) :
  c.bare.canWait = c.canWait
  := rfl

theorem after_deliver (c : Processor) (keys : KeySnapshot) :
  c.after (.publish keys.toList) = { c with keyChannel := c.keyChannel.deliver keys }
  := by
  have length : keys.toList.length = 16 := keys.length_toList
  show left (c.publish keys.toList) = _
  rw [publish, KeyChannel.publish, dif_pos length]
  rfl

theorem play_publish (c : Processor) (rs : List Request) (keys : KeySnapshot) :
  (c.play (rs ++ [.publish keys.toList])).bare = (c.play rs).bare
  := by
  rw [play_concat, after_deliver]
  rfl

/-- The processor `cpu` is in the middle of a tick after requests to `c`, and `p` is its next
move. -/
def Midway (c : Processor) (rs : List Request) (p : ProcessorMove) (cpu : Processor) : Prop :=
  cpu.keyChannel = (c.play rs).keyChannel ∧
    ∃ d, begun p (c.play rs) = .ok () d ∧ cpu.bare = d.bare

/-- The processor `m` breaks down and leaves `d`: in its next tick, or because this tick is too far
away. -/
def Breaks (m : Processor) (b : Breakdown) (d : Processor) : Prop :=
  (∃ e, begun .readKeys m = .error e d ∧ b = d.breakdownFor e) ∨
    b = .endlessWait ∧ m.canWait = false ∧ d = m

/-- The processor `cpu` has broken down after requests to `c`. -/
def Failed (c : Processor) (rs : List Request) (b : Breakdown) (cpu : Processor) : Prop :=
  ∃ d, Breaks (c.play rs) b d ∧ cpu.bare = d.bare

/-- The processor `cpu` has made the ticks of requests to `c`, and `p` is its next move. -/
def Follows (c : Processor) (rs : List Request) (p : ProcessorMove) (cpu : Processor) : Prop :=
  match p with
  | .close (some b) => Failed c rs b cpu
  | .finished (some b) => ∃ d, Failed c rs b d ∧ cpu.bare = d.silence.bare
  | .finished none => cpu.bare = (c.play rs).silence.bare
  | p => Midway c rs p cpu

section

variable {c cpu cpu' : Processor} {rs rs' : List Request} {p : ProcessorMove}

/-! ### Changes that the host makes -/

section

variable (same : cpu'.bare = cpu.bare) (bare : (c.play rs').bare = (c.play rs).bare)

include same bare

theorem Midway.disturbed (h : Midway c rs p cpu)
    (channel : cpu.keyChannel = (c.play rs).keyChannel →
      cpu'.keyChannel = (c.play rs').keyChannel) :
  Midway c rs' p cpu'
  := by
  obtain ⟨keys, d, reached, alike⟩ := h
  obtain ⟨d', reached', alike'⟩ := Isolated.of_ok bare reached
  use channel keys, d', reached'
  rw [same, alike, alike']

theorem Failed.disturbed {b : Breakdown} (h : Failed c rs b cpu) :
  Failed c rs' b cpu'
  := by
  obtain ⟨d, ⟨e, failed, cause⟩ | ⟨endless, far, rfl⟩, alike⟩ := h
  · obtain ⟨d', failed', alike'⟩ := Isolated.of_error bare failed
    refine ⟨d', .inl ⟨e, failed', ?_⟩, by rw [same, alike, alike']⟩
    rw [cause, ← breakdownFor_bare, ← alike', breakdownFor_bare]
  · refine ⟨_, .inr ⟨endless, ?_, rfl⟩, by rw [same, alike, bare]⟩
    rw [← canWait_bare, bare, canWait_bare, far]

/-- What the processor does not have to itself may change at any time, if the keys that wait for
it do so for a processor that has made these ticks as well. -/
theorem Follows.disturbed (h : Follows c rs p cpu)
    (channel : cpu.keyChannel = (c.play rs).keyChannel →
      cpu'.keyChannel = (c.play rs').keyChannel) :
  Follows c rs' p cpu'
  := by
  cases p with
  | close b =>
      cases b with
      | none => exact Midway.disturbed same bare h channel
      | some b => exact Failed.disturbed same bare h
  | finished b =>
      cases b with
      | none =>
          rw [Follows, same, silence_bare, bare, ← silence_bare]
          exact h
      | some b =>
          obtain ⟨d, failed, alike⟩ := h
          exact ⟨d, failed.disturbed rfl bare, same.trans alike⟩
  | _ => exact Midway.disturbed same bare h channel

end

/-! ### Moves of the processor -/

/-- The part `a` of a tick comes between the moves `p` and `next`. -/
structure Leads {α : Type} (p : ProcessorMove) (a : ProcessorAction α) (next : ProcessorMove) :
    Prop where
  goesOn : ∀ {c d d' x}, begun p c = .ok () d → a d = .ok x d' → begun next c = .ok () d'
  fails : ∀ {c d d' e}, begun p c = .ok () d → a d = .error e d' →
    begun .readKeys c = .error e d'

theorem leads_execute :
  Leads .execute step .present
  := by
  constructor
  · intro c d d' x reached ended
    cases reached
    exact ended
  · intro c d d' e reached failed
    cases reached
    apply bind_of_error failed

theorem leads_present :
  Leads .present present .count
  := by
  constructor
  · intro c d d' x reached ended
    rw [begun, bind_of_ok (a := step) reached, bind_of_ok ended]
    rfl
  · intro c d d' e reached failed
    rw [begun, bind_of_ok (a := step) reached, bind_of_error failed]

theorem leads_count :
  Leads .count Joint.count .readKeys
  := by
  constructor
  · intro c d d' x reached ended
    rw [begun_readKeys, bind_of_ok reached, ended]
  · intro c d d' e reached failed
    rw [begun_readKeys, bind_of_ok reached, failed]

/-- A part of a tick leads to the next move, or the tick fails. -/
theorem Midway.perform {α : Type} {a : ProcessorAction α} [Isolated a] {j : Joint}
    {next : ProcessorMove} (h : Midway c rs p j.system.cpu) (leads : Leads p a next) :
  (Midway c rs next (j.perform a next).system.cpu ∧ (j.perform a next).cpuMove = next) ∨
    ∃ b, Failed c rs b (j.perform a next).system.cpu ∧
      (j.perform a next).cpuMove = .close (some b)
  := by
  obtain ⟨keys, d, reached, alike⟩ := h
  rw [Joint.perform]
  cases ended : a j.system.cpu with
  | ok x cpu =>
      left
      obtain ⟨d', ended', alike'⟩ := Isolated.of_ok alike.symm ended
      have keys' : cpu.keyChannel = (c.play rs).keyChannel :=
        (Isolated.keyChannel_of_ok ended).trans keys
      exact ⟨⟨keys', d', leads.goesOn reached ended', alike'.symm⟩, rfl⟩
  | error e cpu =>
      right
      obtain ⟨d', ended', alike'⟩ := Isolated.of_error alike.symm ended
      refine ⟨cpu.breakdownFor e, ⟨d', .inl ⟨e, leads.fails reached ended', ?_⟩, ?_⟩, rfl⟩
      · rw [← breakdownFor_bare, ← alike', breakdownFor_bare]
      · exact (reported_bare _ _).trans alike'.symm

/-- The tick that was begun is completed by reading the keys. -/
theorem tick_of_begun {d : Processor} (reached : begun .readKeys c = .ok () d) :
  c.tick = .ok () d.completed
  := by
  rw [tick_eq_begun, bind_of_ok reached]
  rfl

/-- A tick fails before the keys are read. -/
theorem tick_eq_error_iff {d : Processor} {e : Fault} :
  c.tick = .error e d ↔ begun .readKeys c = .error e d
  := by
  rw [tick_eq_begun]
  cases reached : begun .readKeys c with
  | ok x m =>
      rw [bind_of_ok reached]
      exact ⟨nofun, nofun⟩
  | error e' m => rw [bind_of_error reached]

theorem tick_eq_ok_iff {d : Processor} :
  c.tick = .ok () d ↔ ∃ m, begun .readKeys c = .ok () m ∧ d = m.completed
  := by
  constructor
  · intro ticked
    cases reached : begun .readKeys c with
    | ok x m =>
        rw [tick_of_begun reached] at ticked
        cases ticked
        exact ⟨m, rfl, rfl⟩
    | error e m =>
        rw [tick_eq_error_iff.mpr reached] at ticked
        cases ticked
  · rintro ⟨m, reached, rfl⟩
    apply tick_of_begun reached

theorem play_tick {d : Processor} (reached : begun .readKeys (c.play rs) = .ok () d) :
  c.play (rs ++ [.tick]) = d.completed
  := by
  rw [play_concat]
  show left (c.play rs).tick = d.completed
  rw [tick_of_begun reached]
  rfl

/-- Reading the keys completes the tick. -/
theorem Midway.completed (h : Midway c rs .readKeys cpu) :
  Midway c (rs ++ [.tick]) .wait cpu.completed ∧ CompletesTick (c.play rs)
  := by
  obtain ⟨keys, d, reached, alike⟩ := h
  have keys' : cpu.keyChannel = d.keyChannel := keys.trans (Isolated.keyChannel_of_ok reached).symm
  constructor
  · rw [Midway, play_tick reached]
    constructor
    · rw [completed_keyChannel, completed_keyChannel, alike, keys']
    · use d.completed, rfl
      rw [completed_bare, completed_bare, alike, keys']
  · exact ⟨d.completed, tick_of_begun reached⟩

end

end Processor

/-! ### Whole ticks -/

namespace Joint

open Processor

variable {c : Processor} {rs : List Request} {j : Joint}

theorem request?_cpu_of_ne (other : j.cpuMove ≠ .readKeys) :
  j.request? (.move .cpu) = none
  := if_neg other

/-- A part of a tick that is not its last one leads to the next move, or the processor breaks
down. -/
theorem follows_perform {α : Type} {a : ProcessorAction α} [Isolated a] {p next : ProcessorMove}
    (h : Midway c rs p j.system.cpu) (leads : Leads p a next)
    (running : ∀ {cpu}, Midway c rs next cpu → Follows c rs next cpu) :
  Follows c rs (j.perform a next).cpuMove (j.perform a next).system.cpu
  := by
  rcases h.perform leads with ⟨midway, goesOn⟩ | ⟨b, failed, closes⟩
  · rw [goesOn]
    apply running midway
  · rw [closes]
    exact failed

/-- A wait changes nothing, but the processor breaks down if it is too long. -/
theorem cpuTurn_wait (next : j.cpuMove = .wait) :
  j.cpuTurn =
    if j.system.cpu.stopRequested || j.system.cpu.canWait then { j with cpuMove := .decide }
    else { j with cpuMove := .close (some .endlessWait) }
  := by
  rw [cpuTurn, next]
  dsimp only
  rw [wait]
  by_cases near : (j.system.cpu.stopRequested || j.system.cpu.canWait) = true
  · rw [if_pos near, if_pos near]
  · rw [if_neg near, if_neg near]
    rfl

/-- A wait leads to the next tick, or the processor breaks down. -/
theorem follows_wait (next : j.cpuMove = .wait) (h : Midway c rs .wait j.system.cpu) :
  Follows c rs j.cpuTurn.cpuMove j.cpuTurn.system.cpu
  := by
  rw [cpuTurn_wait next]
  by_cases near : (j.system.cpu.stopRequested || j.system.cpu.canWait) = true
  · rw [if_pos near]
    exact h
  · rw [if_neg near]
    obtain ⟨-, d, reached, alike⟩ := h
    cases reached
    refine ⟨_, .inr ⟨rfl, ?_, rfl⟩, alike⟩
    rw [← canWait_bare, ← alike, canWait_bare]
    exact (Bool.or_eq_false_iff.mp (Bool.eq_false_iff.mpr near)).2

/-- A move of the processor goes on with the tick that it is in. -/
theorem follows_cpuTurn (h : Follows c rs j.cpuMove j.system.cpu) :
  Follows c (rs ++ (j.request? (.move .cpu)).toList) j.cpuTurn.cpuMove j.cpuTurn.system.cpu ∧
    (j.request? (.move .cpu) = some .tick → CompletesTick (c.play rs))
  := by
  by_cases reading : j.cpuMove = .readKeys
  · rw [reading] at h
    obtain ⟨midway, completes⟩ := Midway.completed h
    rw [request?, if_pos reading, cpuTurn, reading]
    exact ⟨midway, fun _ => completes⟩
  rw [request?_cpu_of_ne reading, Option.toList_none, List.append_nil]
  refine ⟨?_, fun absent => absurd absent (Option.some_ne_none _).symm⟩
  by_cases waiting : j.cpuMove = .wait
  · rw [waiting] at h
    apply follows_wait waiting h
  rw [cpuTurn]
  cases next : j.cpuMove with
  | readKeys => exact absurd next reading
  | decide =>
      rw [next] at h
      dsimp only
      split
      · exact h
      · exact h
  | execute =>
      rw [next] at h
      apply follows_perform h leads_execute id
  | present =>
      rw [next] at h
      apply follows_perform h leads_present id
  | count =>
      rw [next] at h
      apply follows_perform h leads_count id
  | wait => exact absurd next waiting
  | close b =>
      rw [next] at h
      cases b with
      | none =>
          obtain ⟨-, d, reached, alike⟩ := h
          cases reached
          show j.system.cpu.silence.bare = _
          rw [silence_bare, silence_bare, alike]
      | some b => exact ⟨j.system.cpu, h, rfl⟩
  | finished b =>
      show Follows c rs j.cpuMove j.system.cpu
      rw [next]
      rw [next] at h
      exact h

/-- A move of the host does not interfere with the tick that the processor is in. -/
theorem follows_hostTurn (h : Follows c rs j.cpuMove j.system.cpu) :
  Follows c (rs ++ (j.request? (.move .host)).toList) j.hostTurn.cpuMove j.hostTurn.system.cpu
  := by
  obtain ⟨sameMove, same, -, ⟨silent, kept⟩ | ⟨keys, published, delivered⟩⟩ := hostTurn_cpu j
  · rw [silent, sameMove, Option.toList_none, List.append_nil]
    apply h.disturbed same rfl
    intro keys
    rw [kept, keys]
  · rw [published, sameMove]
    apply h.disturbed same (play_publish c rs keys)
    intro waiting
    rw [delivered, waiting, play_concat, after_deliver]

/-- The processor has to itself what it has in the tick after requests to `c`, all ticks of which
complete. -/
structure Linear (c : Processor) (rs : List Request) (j : Joint) : Prop where
  follows : Follows c rs j.cpuMove j.system.cpu
  completes : c.EachTick rs CompletesTick
  ticks : .step ∉ rs

/-- What an event serves is no single step, and it is a tick only if that tick completes. -/
theorem request?_spec (h : Follows c rs j.cpuMove j.system.cpu) (e : Event) :
  j.request? e ≠ some .step ∧ (j.request? e = some .tick → CompletesTick (c.play rs))
  := by
  cases e with
  | move t =>
      cases t with
      | cpu =>
          refine ⟨?_, (follows_cpuTurn h).2⟩
          rw [request?]
          split
          · intro absurd
            cases absurd
          · exact Option.some_ne_none _ ∘ Eq.symm
      | host =>
          obtain ⟨-, -, -, ⟨silent, -⟩ | ⟨keys, published, -⟩⟩ := hostTurn_cpu j
          · rw [silent]
            exact ⟨nofun, nofun⟩
          · rw [published]
            exact ⟨nofun, nofun⟩
  | keyboard down quitting => exact ⟨nofun, nofun⟩
  | desktop state => exact ⟨nofun, nofun⟩

theorem follows_happen (h : Follows c rs j.cpuMove j.system.cpu) (e : Event) :
  Follows c (rs ++ (j.request? e).toList) (j.happen e).cpuMove (j.happen e).system.cpu
  := by
  cases e with
  | move t =>
      cases t with
      | cpu => apply (follows_cpuTurn h).1
      | host => apply follows_hostTurn h
  | keyboard down quitting =>
      rw [request?, Option.toList_none, List.append_nil]
      exact h
  | desktop state =>
      rw [request?, Option.toList_none, List.append_nil]
      exact h

theorem Linear.happen (h : Linear c rs j) (e : Event) :
  Linear c (rs ++ (j.request? e).toList) (j.happen e)
  := by
  obtain ⟨noStep, completes⟩ := request?_spec h.follows e
  use follows_happen h.follows e
  · cases served : j.request? e with
    | none =>
        rw [Option.toList_none, List.append_nil]
        exact h.completes
    | some r =>
        rw [Option.toList_some, eachTick_concat]
        use h.completes
        rintro rfl
        apply completes served
  · rw [List.mem_append, Option.mem_toList]
    exact not_or.mpr ⟨h.ticks, noStep⟩

/-- Whatever happens, the processor makes one tick after the other. -/
theorem linear_along (limit : Option Nat) (s : System) (es : List Event) :
  Linear s.cpu ((start limit s).requests es) ((start limit s).along es)
  := by
  induction es using List.reverseRecOn with
  | nil =>
      constructor
      · exact ⟨rfl, s.cpu, rfl, rfl⟩
      · apply eachTick_nil
      · exact List.not_mem_nil
  | append_singleton es e ih =>
      rw [requests, collect_concat, along_concat]
      apply ih.happen

end Joint

end Chip8
