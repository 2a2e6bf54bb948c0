import Chip8.Proofs.Delivery

/-!
# Closing

However a processor and a host whose devices do not fail are interleaved, once the host has finished
its display has the last frame that was published, the buzzer is off, and the processor has made
whole ticks and was asked to stop (`Joint.run_delivers`). At the end no frame waits in the display
slot, since the processor publishes nothing after it has finished, and the host waits for this
before it shows the last frame (`Joint.Leaves`).
-/

namespace Chip8

/-- How far the host has come in leaving: it asked the processor to stop, the processor has finished
and the buzzer is off, and it has shown the last frame. -/
def HostMove.stage : HostMove → Nat
  | .check | .publishKeys | .showFrame | .switchBuzzer | .leave _ => 0
  | .join _ => 1
  | .showLast => 2
  | .finished _ => 3

/-- The breakdown with which the processor has finished. -/
def ProcessorMove.breakdown? : ProcessorMove → Option Breakdown
  | .finished b => b
  | .decide | .execute | .present | .count | .readKeys | .wait | .close _ => none

namespace Joint

open Processor

theorem exists_cpuMove {j : Joint} (finished : j.cpuFinished = true) :
  ∃ b, j.cpuMove = .finished b
  := by
  rw [cpuFinished] at finished
  cases next : j.cpuMove with
  | finished b => exact ⟨b, rfl⟩
  | _ =>
      rw [next] at finished
      cases finished

theorem exists_hostMove {j : Joint} (finished : j.hostFinished = true) :
  ∃ error, j.hostMove = .finished error
  := by
  rw [hostFinished] at finished
  cases next : j.hostMove with
  | finished error => exact ⟨error, rfl⟩
  | _ =>
      rw [next] at finished
      cases finished

/-! ### Leaving -/

/-- What holds once the host has come so far in leaving. -/
structure Gone (j : Joint) : Prop where
  asked : 1 ≤ j.hostMove.stage → j.system.cpu.stopRequested = true
  joined : 2 ≤ j.hostMove.stage → j.cpuFinished = true ∧ j.system.host.buzzer.enabled = false
  emptied : 3 ≤ j.hostMove.stage → j.system.cpu.machine.screen.display.pending? = none

/-- The host leaves in order, and the processor has finished in silence. -/
structure Leaves (j : Joint) : Prop extends Gone j where
  silent : j.cpuFinished = true → j.system.cpu.buzzerChannel.playing = false
  learned : j.system.host.lastBreakdown = j.cpuMove.breakdown?

section

variable {j : Joint} {first : Display} {published drawn : List Frame}

theorem gone_of_stage_eq_zero (early : j.hostMove.stage = 0) :
  Gone j
  := by
  constructor
  · intro late
    omega
  · intro late
    omega
  · intro late
    omega

theorem stage_attempt (a : HostAction Unit) {next : HostMove} {failed : HostError → HostMove}
    (early : next.stage = 0) (early' : ∀ e, (failed e).stage = 0) :
  (j.attempt a next failed).hostMove.stage = 0
  := by
  rw [attempt]
  cases a j.system with
  | ok x s => exact early
  | error e s => exact early' e

theorem stage_hostTurn_of_refreshing
    (refreshing : j.hostMove ∈ [.check, .publishKeys, .showFrame, .switchBuzzer]) :
  j.hostTurn.hostMove.stage = 0
  := by
  rw [hostTurn]
  simp only [List.mem_cons, List.not_mem_nil, or_false] at refreshing
  rcases refreshing with next | next | next | next <;> rw [next] <;> dsimp only
  · split
    · rfl
    · split <;> rfl
  · exact stage_attempt _ rfl fun _ => rfl
  · exact stage_attempt _ rfl fun _ => rfl
  · exact stage_attempt _ rfl fun _ => rfl

theorem Gone.hostTurn (h : Gone j) (frames : Delivers first published drawn j) :
  Gone j.hostTurn
  := by
  cases next : j.hostMove with
  | leave error =>
      rw [Joint.hostTurn, next]
      constructor
      · intro _
        rfl
      · intro late
        exact absurd late (Nat.not_succ_le_self 1)
      · intro late
        exact absurd late (Nat.not_succ_le_self 2 ∘ Nat.le_succ_of_le)
  | join error =>
      have unfailing := frames.unfailing
      rw [next] at unfailing
      obtain rfl : error = none := unfailing
      have asked := h.asked (by rw [next]; exact Nat.le_refl 1)
      rw [Joint.hostTurn, next]
      dsimp only
      split
      · next finished =>
          constructor
          · intro _
            exact asked
          · intro _
            exact ⟨finished, rfl⟩
          · intro late
            exact absurd late (Nat.not_succ_le_self 2)
      · exact h
  | showLast =>
      obtain ⟨renderer, system, -, -, -⟩ := hostTurn_shows frames.ready frames.sound (.inr next)
      obtain ⟨sameMove, -⟩ := hostTurn_cpu j
      have late : 2 ≤ j.hostMove.stage := by
        rw [next]
        exact Nat.le_refl 2
      obtain ⟨finished, off⟩ := h.joined late
      constructor
      · intro _
        rw [system]
        exact h.asked (Nat.le_of_succ_le late)
      · intro _
        rw [cpuFinished, sameMove, system]
        exact ⟨finished, off⟩
      · intro _
        rw [system]
        apply Latest.pending?_take
  | finished error =>
      rw [Joint.hostTurn, next]
      exact h
  | _ =>
      apply gone_of_stage_eq_zero
      apply stage_hostTurn_of_refreshing
      rw [next]
      decide

/-- A part of a tick is not the end of the run. -/
theorem perform_running {α : Type} (a : ProcessorAction α) {next : ProcessorMove}
    (running : ∀ b, next ≠ .finished b) :
  (j.perform a next).cpuFinished = false ∧ (j.perform a next).cpuMove.breakdown? = none
  := by
  rw [perform]
  cases a j.system.cpu with
  | error e cpu => exact ⟨rfl, rfl⟩
  | ok x cpu =>
      cases next with
      | finished b => exact absurd rfl (running b)
      | _ => exact ⟨rfl, rfl⟩

theorem perform_told {α : Type} (a : ProcessorAction α) [isolated : Isolated a]
    (next : ProcessorMove) :
  (j.perform a next).system.cpu.told = j.system.cpu.told
  := by
  have key := isolated.told j.system.cpu
  rw [perform]
  cases ended : a j.system.cpu with
  | ok x cpu =>
      rw [ended] at key
      exact key
  | error e cpu =>
      rw [ended] at key
      exact (reported_told _ _).trans key

theorem cpuTurn_stopRequested (j : Joint) :
  j.cpuTurn.system.cpu.stopRequested = j.system.cpu.stopRequested
  := by
  have performed : ∀ {α : Type} (a : ProcessorAction α) [Isolated a] (next : ProcessorMove),
      (j.perform a next).system.cpu.stopRequested = j.system.cpu.stopRequested := by
    intro α a isolated next
    exact congrArg Prod.snd (perform_told a next)
  by_cases waiting : j.cpuMove = .wait
  · rw [cpuTurn_wait waiting]
    split <;> rfl
  rw [Joint.cpuTurn]
  cases next : j.cpuMove with
  | decide =>
      dsimp only
      split <;> rfl
  | readKeys => rfl
  | wait => exact absurd next waiting
  | close b => cases b <;> rfl
  | finished b => rfl
  | _ => apply performed

theorem cpuTurn_of_finished (finished : j.cpuFinished = true) :
  j.cpuTurn = j
  := by
  obtain ⟨b, next⟩ := exists_cpuMove finished
  rw [Joint.cpuTurn, next]

theorem breakdown?_of_running (running : j.cpuFinished = false) :
  j.cpuMove.breakdown? = none
  := by
  rw [cpuFinished] at running
  cases next : j.cpuMove with
  | finished b =>
      rw [next] at running
      cases running
  | _ => rfl

/-- When the processor finishes, it switches the buzzer off and tells the host of its breakdown. -/
theorem cpuTurn_finishes (running : j.cpuFinished = false) :
  (j.cpuTurn.cpuFinished = true → j.cpuTurn.system.cpu.buzzerChannel.playing = false) ∧
    j.cpuTurn.system.host.lastBreakdown = j.cpuTurn.cpuMove.breakdown?.or j.system.host.lastBreakdown
  := by
  have performed : ∀ {α : Type} (a : ProcessorAction α) {next : ProcessorMove},
      (∀ b, next ≠ .finished b) →
      ((j.perform a next).cpuFinished = true →
          (j.perform a next).system.cpu.buzzerChannel.playing = false) ∧
        (j.perform a next).system.host.lastBreakdown =
          (j.perform a next).cpuMove.breakdown?.or j.system.host.lastBreakdown := by
    intro α a next goesOn
    obtain ⟨notOver, none⟩ := perform_running (j := j) a goesOn
    rw [notOver, none, (perform_host j a next).1]
    exact ⟨fun absurd => Bool.noConfusion absurd, rfl⟩
  by_cases waiting : j.cpuMove = .wait
  · rw [cpuTurn_wait waiting]
    split <;> exact ⟨fun absurd => Bool.noConfusion absurd, rfl⟩
  rw [Joint.cpuTurn]
  cases next : j.cpuMove with
  | wait => exact absurd next waiting
  | decide =>
      dsimp only
      split <;> exact ⟨fun absurd => Bool.noConfusion absurd, rfl⟩
  | close b =>
      cases b with
      | none => exact ⟨fun _ => BuzzerChannel.playing_stop _, rfl⟩
      | some b => exact ⟨fun _ => BuzzerChannel.playing_stop _, rfl⟩
  | finished b =>
      rw [cpuFinished, next] at running
      cases running
  | _ => exact performed _ fun _ => ProcessorMove.noConfusion

/-- The moves of the processor do not interfere with what the host has done in leaving. -/
theorem Gone.cpuTurn (h : Gone j) :
  Gone j.cpuTurn
  := by
  cases finished : j.cpuFinished with
  | true =>
      rw [cpuTurn_of_finished finished]
      exact h
  | false =>
      obtain ⟨sameMove, -⟩ := cpuTurn_host j
      have early : ¬2 ≤ j.hostMove.stage := by
        intro late
        rw [(h.joined late).1] at finished
        cases finished
      constructor
      · rw [sameMove, cpuTurn_stopRequested]
        exact h.asked
      · rw [sameMove]
        intro late
        exact absurd late early
      · rw [sameMove]
        intro late
        exact absurd (Nat.le_of_succ_le late) early

theorem Leaves.cpuTurn (h : Leaves j) :
  Leaves j.cpuTurn
  := by
  cases finished : j.cpuFinished with
  | true =>
      rw [cpuTurn_of_finished finished]
      exact h
  | false =>
      obtain ⟨silent, learned⟩ := cpuTurn_finishes finished
      rw [h.learned, breakdown?_of_running finished, Option.or_none] at learned
      exact ⟨h.toGone.cpuTurn, silent, learned⟩

theorem Leaves.hostTurn (h : Leaves j) (frames : Delivers first published drawn j) :
  Leaves j.hostTurn
  := by
  obtain ⟨sameMove, same, sameBreakdown, -⟩ := hostTurn_cpu j
  have playing : j.hostTurn.system.cpu.buzzerChannel.playing =
      j.system.cpu.buzzerChannel.playing := congrArg (fun c => c.buzzerChannel.playing) same
  constructor
  · apply h.toGone.hostTurn frames
  · rw [cpuFinished, sameMove, playing]
    exact h.silent
  · rw [sameBreakdown, sameMove]
    exact h.learned

theorem Leaves.happen (h : Leaves j) (frames : Delivers first published drawn j) (e : Event) :
  Leaves (j.happen e)
  := by
  cases e with
  | move t =>
      cases t with
      | cpu => apply h.cpuTurn
      | host => apply h.hostTurn frames
  | keyboard down quitting => exact { h with }
  | desktop state => exact { h with }

end

/-! ### Runs -/

/-- Whatever happens, the host leaves in order. -/
theorem leaves_along (limit : Option Nat) {s : System} (ready : s.host.Ready)
    (bits : s.cpu.machine.screen.vram.IsBits)
    (empty : s.cpu.machine.screen.display.pending? = none) (fresh : s.host.lastBreakdown = none)
    (es : List Event) :
  Leaves ((start limit s).along es)
  := by
  induction es using List.reverseRecOn with
  | nil => exact ⟨gone_of_stage_eq_zero rfl, nofun, fresh⟩
  | append_singleton es e ih =>
      rw [along_concat]
      apply ih.happen (delivers_along limit ready bits empty es)

/-- Take a processor whose pixels are bits and whose display slot is empty, and a host whose devices
do not fail. However their moves are interleaved with each other and with what the user does, once
the host has finished, the display has the last frame that was published, the frames that were drawn
are some of those that were published, in the same order and each drawn once, the buzzer is off, and
the processor was asked to stop. The processor has made whole ticks, between which the keys were
published. If it broke down, it has also begun the tick that failed, or the next tick was too far
away; then the run ends with this breakdown, and otherwise it ends quietly. -/
theorem run_delivers {s : System} (limit : Option Nat) (ready : s.host.Ready)
    (bits : s.cpu.machine.screen.vram.IsBits)
    (empty : s.cpu.machine.screen.display.pending? = none) (fresh : s.host.lastBreakdown = none)
    {es : List Event} (ended : ((start limit s).along es).hostFinished = true) :
  let first := start limit s
  let j := first.along es
  let rs := first.requests es
  j.system.host.renderer.display.frame =
      (first.publications es).getLast?.or s.host.renderer.display.frame ∧
    (first.drawings es).Sublist (first.publications es) ∧
    j.system.host.renderer.display.drawn =
      s.host.renderer.display.drawn + (first.drawings es).length ∧
    j.system.host.buzzer.enabled = false ∧ j.system.cpu.buzzerChannel.playing = false ∧
    j.system.cpu.stopRequested = true ∧
    .step ∉ rs ∧ s.cpu.EachTick rs CompletesTick ∧
    ((j.cpuMove = .finished none ∧ j.ending? = some .quiet ∧
        j.system.cpu.bare = (s.cpu.play rs).silence.bare) ∨
      ∃ b, j.cpuMove = .finished (some b) ∧ j.ending? = some (.broken b) ∧
        ((∃ e d, (s.cpu.play rs).tick = .error e d ∧ b = d.breakdownFor e ∧
            j.system.cpu.bare = d.silence.bare) ∨
          b = .endlessWait ∧ (s.cpu.play rs).canWait = false ∧
            j.system.cpu.bare = (s.cpu.play rs).silence.bare))
  := by
  intro first j rs
  have frames := delivers_along limit ready bits empty es
  have leaves := leaves_along limit ready bits empty fresh es
  have linear := linear_along limit s es
  obtain ⟨error, atEnd⟩ := exists_hostMove ended
  have unfailing : j.hostMove.error? = none := frames.unfailing
  rw [atEnd] at unfailing
  obtain rfl : error = none := unfailing
  have late : 3 ≤ j.hostMove.stage := by
    rw [atEnd]
    exact Nat.le_refl 3
  have awaits := frames.awaits
  rw [leaves.emptied late] at awaits
  obtain ⟨joined, off⟩ := leaves.joined (Nat.le_of_succ_le late)
  constructor
  · rw [← awaits.2]
    exact frames.frame
  use awaits.1, frames.count, off, leaves.silent joined,
    leaves.asked (Nat.le_trans (by decide) late), linear.ticks, linear.completes
  obtain ⟨breakdown, next⟩ := exists_cpuMove joined
  have follows : Follows s.cpu rs j.cpuMove j.system.cpu := linear.follows
  have learned : j.system.host.lastBreakdown = j.cpuMove.breakdown? := leaves.learned
  rw [next] at follows learned
  rw [ending?, atEnd, next]
  cases breakdown with
  | none =>
      left
      use rfl
      constructor
      · dsimp only
        rw [learned]
        rfl
      · exact follows
  | some b =>
      right
      use b, rfl
      constructor
      · dsimp only
        rw [learned]
        rfl
      · obtain ⟨d', ⟨d, breaks, alike⟩, same⟩ := follows
        have final : j.system.cpu.bare = d.silence.bare := by
          rw [same, silence_bare, alike, ← silence_bare]
        rcases breaks with ⟨e, failed, cause⟩ | ⟨endless, far, rfl⟩
        · exact .inl ⟨e, d, tick_eq_error_iff.mpr failed, cause, final⟩
        · exact .inr ⟨endless, far, final⟩

/-- A processor that draws a digit again and again, and a host with a plain display. -/
def blinkingBeside : System where
  cpu := blinking
  host :=
    { renderer := .plain ⟨1, 64, 32, none, 0⟩
      keyboard := ⟨.headless, ⟨[]⟩, Vector.replicate 16 false, false⟩
      buzzer := .silent
      desktop := none
      lastBreakdown := none }

/-- The host shows the digit and then learns that the user wants to quit while the processor draws
the digit again. -/
def quitWhileDrawing : List Event :=
  List.flatten
    [List.replicate 6 (.move .cpu), List.replicate 4 (.move .host), List.replicate 8 (.move .cpu),
      [.keyboard (Vector.replicate 16 false) true], List.replicate 2 (.move .host),
      List.replicate 6 (.move .cpu), List.replicate 2 (.move .host)]

/-- Two frames are drawn, and the second one is the last one that was published. -/
theorem run_delivers_quit :
  let first := start none blinkingBeside
  let j := first.along quitWhileDrawing
  j.hostFinished = true ∧ (first.drawings quitWhileDrawing).length = 2 ∧
    (first.drawings quitWhileDrawing).Sublist (first.publications quitWhileDrawing) ∧
    j.system.host.renderer.display.frame =
      (first.publications quitWhileDrawing).getLast?.or none
  := by
  have ready : blinkingBeside.host.Ready := by
    refine ⟨⟨rfl, rfl, ?_⟩, KeyboardKind.noConfusion⟩
    intro w absurd
    cases absurd
  have reached : Reachable blinking :=
    .boot (idle (.ofList [7])) [0xd0, 0x05, 0x12, 0x00] (by decide)
  have bits : blinkingBeside.cpu.machine.screen.vram.IsBits := reached.inBounds.vram
  have run : blinkingBeside.cpu.machine.screen.display.pending? = none ∧
      ((start none blinkingBeside).along quitWhileDrawing).hostFinished = true ∧
      ((start none blinkingBeside).along
        quitWhileDrawing).system.host.renderer.display.drawn = 2 := by decide +kernel
  obtain ⟨empty, ended, two⟩ := run
  obtain ⟨frame, sublist, count, -⟩ := run_delivers none ready bits empty rfl ended
  have unused : blinkingBeside.host.renderer.display.drawn = 0 := rfl
  have blank : blinkingBeside.host.renderer.display.frame = none := rfl
  rw [two, unused, Nat.zero_add] at count
  rw [blank] at frame
  exact ⟨ended, count.symm, sublist, frame⟩

end Joint

end Chip8
