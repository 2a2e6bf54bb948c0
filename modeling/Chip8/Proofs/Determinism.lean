import Chip8.Proofs.Pacing

/-!
# Runs do not depend on the schedule

A host that publishes the same keys in every refresh does not interfere with its processor. However
the moves of the two are interleaved, the processor ends as it does when it runs alone, and the host
shows the frame that waits in the display slot then (`Joint.run_deterministic`). Reading the keys
again does not change them (`Processor.Steady`), and of all frames that the processor publishes the
host shows the last one in the end, whichever it missed before (`Joint.pending_along`).
-/

namespace Chip8

/-! ### Keys that stay the same -/

namespace Processor

/-- The program sees these keys, and no others wait in the key channel. -/
structure Steady (keys : KeySnapshot) (c : Processor) : Prop where
  seen : c.machine.keys = keys
  waiting : ∀ snapshot, c.keyChannel.slot.pending? = some snapshot → snapshot = keys

section

variable {keys : KeySnapshot} {c d : Processor}

theorem Steady.of_ok {α : Type} {a : ProcessorAction α} [Isolated a] [Keeps tally a]
    (h : Steady keys c) {x : α} (ended : a c = .ok x d) :
  Steady keys d
  := by
  constructor
  · rw [keys_of_ok ended]
    exact h.seen
  · rw [Isolated.keyChannel_of_ok ended]
    exact h.waiting

/-- If no other keys wait, completing a tick only counts. -/
theorem Steady.completed (h : Steady keys c) :
  c.completed.hushed = { c.hushed with ticks := c.hushed.ticks + 1 } ∧ Steady keys c.completed
  := by
  have taken := Latest.pending?_take c.keyChannel.slot
  have waiting := h.waiting
  rw [Latest.pending?] at waiting
  rcases took : c.keyChannel.slot.take with ⟨newest, slot⟩
  rw [took] at taken waiting
  have none : ∀ snapshot, slot.pending? = some snapshot → snapshot = keys := by
    intro snapshot waits
    cases taken.symm.trans waits
  rw [Processor.completed, readKeys, KeyChannel.update, took]
  cases newest with
  | none => exact ⟨rfl, h.seen, none⟩
  | some snapshot =>
      obtain rfl := waiting snapshot rfl
      refine ⟨?_, rfl, none⟩
      have same : { c.machine.registers with keys := snapshot } = c.machine.registers := by
        rw [← h.seen]
        rfl
      dsimp only
      rw [same]
      rfl

theorem Steady.tick (h : Steady keys c) (ticked : c.tick = .ok () d) :
  Steady keys d
  := by
  obtain ⟨m, reached, rfl⟩ := tick_eq_ok_iff.mp ticked
  apply (h.of_ok reached).completed.2

/-- Ticks of processors that see the same keys end alike. -/
theorem steady_tick {c' : Processor} (h : Steady keys c) (h' : Steady keys c')
    (same : c'.hushed = c.hushed) (ticked : c.tick = .ok () d) :
  ∃ d', c'.tick = .ok () d' ∧ d'.hushed = d.hushed
  := by
  obtain ⟨m, reached, rfl⟩ := tick_eq_ok_iff.mp ticked
  obtain ⟨m', reached', same'⟩ := Overlooks.of_ok same reached
  use m'.completed, tick_of_begun reached'
  rw [(h.of_ok reached).completed.1, (h'.of_ok reached').completed.1, same']

theorem Steady.deliver (h : Steady keys c) :
  Steady keys { c with keyChannel := c.keyChannel.deliver keys }
  := by
  use h.seen
  intro snapshot waits
  exact (Option.some.inj waits).symm

end

/-- Publishing the keys that are seen anyway makes no difference to the ticks. -/
theorem steady_play {keys : KeySnapshot} {c c' : Processor} (h : Steady keys c)
    (h' : Steady keys c') (same : c'.hushed = c.hushed) {rs : List Request} (ticks : .step ∉ rs)
    (steady : ∀ states, .publish states ∈ rs → states = keys.toList)
    (completes : c.EachTick rs CompletesTick) :
  Steady keys (c.play rs) ∧ ∃ d, tickTimes (rs.count .tick) c' = .ok () d ∧
    d.hushed = (c.play rs).hushed ∧ Steady keys d
  := by
  induction rs using List.reverseRecOn with
  | nil => exact ⟨h, c', rfl, same, h'⟩
  | append_singleton rs r ih =>
      obtain ⟨ticks, noStep⟩ := not_or.mp (mt List.mem_append.mpr ticks)
      obtain ⟨completes, last⟩ := eachTick_concat.mp completes
      obtain ⟨now, d, made, alike, now'⟩ := ih ticks
        (fun states member => steady states (List.mem_append_left _ member)) completes
      cases r with
      | step => exact absurd (List.mem_singleton_self _) noStep
      | publish states =>
          obtain rfl := steady states (List.mem_append_right _ (List.mem_singleton_self _))
          rw [play_concat, after_deliver, List.count_append]
          exact ⟨now.deliver, d, made, alike, now'⟩
      | tick =>
          obtain ⟨m, ticked⟩ := last rfl
          obtain ⟨d', ticked', alike'⟩ := steady_tick now now' alike ticked
          have after : c.play (rs ++ [.tick]) = m := by
            rw [play_concat]
            show left (c.play rs).tick = m
            rw [ticked]
            rfl
          have one : (rs ++ [Request.tick]).count .tick = rs.count .tick + 1 := by
            rw [List.count_append]
            rfl
          rw [after, one, tickTimes, repeated_succ, bind_of_ok made]
          exact ⟨now.tick ticked, d', ticked', alike', now'.tick ticked'⟩

end Processor

/-! ### The frame that waits in the end -/

/-- The move up to which a tick has come when the processor is about to make a move; a tick that has
failed has come as far as it can, and one that is too far away has not begun. -/
def ProcessorMove.upTo : ProcessorMove → ProcessorMove
  | .close (some .endlessWait) | .finished (some .endlessWait) => .decide
  | .close (some _) | .finished (some _) => .readKeys
  | p => p

theorem ProcessorMove.upTo_breakdownFor (c : Processor) (e : Fault) :
  (ProcessorMove.close (some (c.breakdownFor e))).upTo = .readKeys ∧
    (ProcessorMove.finished (some (c.breakdownFor e))).upTo = .readKeys
  := by
  rw [Processor.breakdownFor]
  split <;> exact ⟨rfl, rfl⟩

namespace Processor

/-- What a processor that has the display slot to itself leaves before the move `p` of its next
tick. -/
def leftAt (c : Processor) (p : ProcessorMove) : Processor := left (begun p.upTo c)

/-- The frame that waits in the display slot. -/
def pending? (c : Processor) : Option Frame := c.machine.screen.display.pending?

theorem pending?_of_hushed {c d : Processor} (same : c.hushed = d.hushed) :
  c.pending? = d.pending?
  := congrArg (fun e => e.pending?) same

theorem leftAt_hushed {c d : Processor} (same : c.hushed = d.hushed) (p : ProcessorMove) :
  (c.leftAt p).hushed = (d.leftAt p).hushed
  := by
  calc (c.leftAt p).hushed
    _ = left (onState hushed (begun p.upTo c)) := (left_onState hushed _).symm
    _ = left (onState hushed (begun p.upTo d)) := congrArg left (Overlooks.alike same)
    _ = (d.leftAt p).hushed := left_onState hushed _

/-- A frame that is presented waits from then on. -/
theorem pending?_presented (c : Processor) :
  c.presented.pending? = c.presented?.or c.pending?
  := by
  rw [presented?_eq, presented]
  cases c.machine.screen.redraw with
  | true => rfl
  | false => rfl

/-- Which frame is presented does not depend on the host. -/
theorem presented?_of_bare {c d : Processor} (same : c.bare = d.bare) :
  c.presented? = d.presented?
  := by
  have redraw : c.machine.screen.redraw = d.machine.screen.redraw :=
    congrArg (fun e => e.machine.screen.redraw) same
  have frame : c.machine.screen.frame = d.machine.screen.frame :=
    congrArg (fun e => e.machine.screen.frame) same
  rw [presented?_eq, presented?_eq, redraw, frame]

end Processor

namespace Joint

open Processor

section

variable {c : Processor} {rs : List Request} {j : Joint}

/-- A part of a tick leaves alone what it leaves beside a host. -/
theorem leftAt_perform {α : Type} {a : ProcessorAction α} [Isolated a] {p next : ProcessorMove}
    (h : Midway c rs p j.system.cpu) (leads : Leads p a next) (inside : next.upTo = next) :
  ∃ d, begun p (c.play rs) = .ok () d ∧ j.system.cpu.bare = d.bare ∧
    (c.play rs).leftAt (j.perform a next).cpuMove = left (a d)
  := by
  obtain ⟨-, d, reached, alike⟩ := h
  use d, reached, alike
  rw [perform]
  cases ended : a j.system.cpu with
  | ok x cpu =>
      obtain ⟨d', ended', -⟩ := Isolated.of_ok alike.symm ended
      dsimp only
      rw [leftAt, inside, leads.goesOn reached ended', ended']
      rfl
  | error e cpu =>
      obtain ⟨d', ended', -⟩ := Isolated.of_error alike.symm ended
      dsimp only
      rw [leftAt, (ProcessorMove.upTo_breakdownFor cpu e).1, leads.fails reached ended', ended']
      rfl

theorem leftAt_of_midway {p : ProcessorMove} {d : Processor} (inside : p.upTo = p)
    (reached : begun p c = .ok () d) :
  c.leftAt p = d
  := by
  rw [leftAt, inside, reached]
  rfl

/-- A move of the processor lets a frame wait exactly if it publishes one. -/
theorem pending_cpuTurn (h : Follows c rs j.cpuMove j.system.cpu) :
  ((c.play (rs ++ (j.request? (.move .cpu)).toList)).leftAt j.cpuTurn.cpuMove).pending? =
    (j.published? (.move .cpu)).or ((c.play rs).leftAt j.cpuMove).pending?
  := by
  by_cases reading : j.cpuMove = .readKeys
  · rw [reading] at h
    obtain ⟨-, d, reached, -⟩ := h
    rw [request?, if_pos reading, Option.toList_some, play_tick reached, published?, cpuTurn,
      reading, leftAt_of_midway rfl reached]
    rfl
  rw [request?_cpu_of_ne reading, Option.toList_none, List.append_nil, published?]
  by_cases waiting : j.cpuMove = .wait
  · rw [cpuTurn_wait waiting, waiting]
    split <;> rfl
  rw [cpuTurn]
  cases next : j.cpuMove with
  | wait => exact absurd next waiting
  | readKeys => exact absurd next reading
  | decide =>
      dsimp only
      split <;> rfl
  | execute =>
      rw [next] at h
      obtain ⟨d, reached, -, left⟩ := leftAt_perform h leads_execute rfl
      dsimp only
      rw [left, leftAt_of_midway rfl reached]
      exact congrArg Latest.pending? (step_display d)
  | present =>
      rw [next] at h
      obtain ⟨d, reached, alike, left⟩ := leftAt_perform h leads_present rfl
      dsimp only
      rw [left, leftAt_of_midway rfl reached, if_pos rfl, presented?_of_bare alike, present_eq]
      apply pending?_presented
  | count =>
      rw [next] at h
      obtain ⟨d, reached, -, left⟩ := leftAt_perform h leads_count rfl
      dsimp only
      rw [left, leftAt_of_midway rfl reached]
      exact congrArg (fun fb => fb.display.pending?) (count_screen d)
  | close b => rcases b with _ | (halt | f | _) <;> rfl
  | finished b =>
      dsimp only
      rw [next]
      rfl

/-- The host does not change which frame waits for a processor that runs alone. -/
theorem pending_hostTurn :
  ((c.play (rs ++ (j.request? (.move .host)).toList)).leftAt j.hostTurn.cpuMove).pending? =
    ((c.play rs).leftAt j.cpuMove).pending?
  := by
  obtain ⟨sameMove, -, -, ⟨silent, -⟩ | ⟨keys, published, -⟩⟩ := hostTurn_cpu j
  · rw [silent, sameMove, Option.toList_none, List.append_nil]
  · have same : (c.play (rs ++ [.publish keys.toList])).hushed = (c.play rs).hushed := by
      rw [play_concat, after_deliver]
      rfl
    rw [published, sameMove, Option.toList_some]
    apply pending?_of_hushed (leftAt_hushed same _)

theorem pending_happen (h : Follows c rs j.cpuMove j.system.cpu) (e : Event) :
  ((c.play (rs ++ (j.request? e).toList)).leftAt (j.happen e).cpuMove).pending? =
    (j.published? e).or ((c.play rs).leftAt j.cpuMove).pending?
  := by
  cases e with
  | move t =>
      cases t with
      | cpu => apply pending_cpuTurn h
      | host => apply pending_hostTurn
  | keyboard down quitting =>
      rw [request?, Option.toList_none, List.append_nil]
      rfl
  | desktop state =>
      rw [request?, Option.toList_none, List.append_nil]
      rfl

end

theorem getLast?_toList (f : Option Frame) :
  f.toList.getLast? = f
  := by cases f <;> rfl

/-- For a processor that runs alone, the frame that was published last waits, or the one that waited
in the beginning. -/
theorem pending_along (limit : Option Nat) (s : System) (es : List Event) :
  let first := start limit s
  ((s.cpu.play (first.requests es)).leftAt (first.along es).cpuMove).pending? =
    (first.publications es).getLast?.or s.cpu.pending?
  := by
  intro first
  induction es using List.reverseRecOn with
  | nil => rfl
  | append_singleton es e ih =>
      rw [requests, publications, collect_concat, collect_concat, along_concat,
        pending_happen (linear_along limit s es).follows, ih, List.getLast?_append,
        getLast?_toList, Option.or_assoc]

/-! ### The end of a run -/

theorem lastBreakdown_cpuTurn {j : Joint} {first : Option Breakdown}
    (learned : j.system.host.lastBreakdown = j.cpuMove.breakdown?.or first) :
  j.cpuTurn.system.host.lastBreakdown = j.cpuTurn.cpuMove.breakdown?.or first
  := by
  cases finished : j.cpuFinished with
  | true =>
      rw [cpuTurn_of_finished finished]
      exact learned
  | false =>
      rw [(cpuTurn_finishes finished).2, learned, breakdown?_of_running finished, Option.none_or]

/-- The host learns of the breakdown of its processor, and otherwise remembers what it learned
before. -/
theorem lastBreakdown_along (limit : Option Nat) (s : System) (es : List Event) :
  ((start limit s).along es).system.host.lastBreakdown =
    ((start limit s).along es).cpuMove.breakdown?.or s.host.lastBreakdown
  := by
  induction es using List.reverseRecOn with
  | nil => rfl
  | append_singleton es e ih =>
      rw [along_concat]
      cases e with
      | move t =>
          cases t with
          | cpu => apply lastBreakdown_cpuTurn ih
          | host =>
              obtain ⟨sameMove, -, sameBreakdown, -⟩ := hostTurn_cpu ((start limit s).along es)
              show ((start limit s).along es).hostTurn.system.host.lastBreakdown =
                ((start limit s).along es).hostTurn.cpuMove.breakdown?.or s.host.lastBreakdown
              rw [sameBreakdown, sameMove, ih]
      | keyboard down quitting => exact ih
      | desktop state => exact ih

/-- Whatever happens, the host leaves in order, also if frames or breakdowns are left from before. -/
theorem gone_along (limit : Option Nat) {s : System} (ready : s.host.Ready)
    (bits : s.cpu.machine.screen.vram.IsBits)
    (sound : ∀ f, s.cpu.pending? = some f → f.Sound) (es : List Event) :
  Gone ((start limit s).along es)
  := by
  induction es using List.reverseRecOn with
  | nil => exact gone_of_stage_eq_zero rfl
  | append_singleton es e ih =>
      rw [along_concat]
      cases e with
      | move t =>
          cases t with
          | cpu => apply ih.cpuTurn
          | host => apply ih.hostTurn (delivers_from limit ready bits sound es)
      | keyboard down quitting => exact { ih with }
      | desktop state => exact { ih with }

/-- A processor that is not asked to stop while it runs makes all its ticks. -/
theorem paced_along (limit : Option Nat) {s : System} {es : List Event}
    (unasked : ∀ before, before <+: es → ((start limit s).along before).cpuFinished = false →
      ((start limit s).along before).system.cpu.stopRequested = false) :
  Paced False limit s.cpu.ticks ((start limit s).along es)
  := by
  induction es using List.reverseRecOn with
  | nil => exact paced_start limit s
  | append_singleton es e ih =>
      have paced := ih fun before begins =>
        unasked before (begins.trans (List.prefix_append es [e]))
      rw [along_concat]
      cases e with
      | move t =>
          cases t with
          | cpu =>
              cases finished : ((start limit s).along es).cpuFinished with
              | true =>
                  show Paced False limit s.cpu.ticks ((start limit s).along es).cpuTurn
                  rw [cpuTurn_of_finished finished]
                  exact paced
              | false =>
                  apply paced.cpuTurn
                  have still := unasked es (List.prefix_append es _) finished
                  exact iff_false_intro (Bool.eq_false_iff.mp still)
          | host => exact paced.hostTurn
      | keyboard down quitting => exact paced.congr id rfl rfl
      | desktop state => exact paced.congr id rfl rfl

end Joint

namespace Processor

/-- The outcome of a run with or without a limit; without one, the run has it however many ticks are
given, if they are enough. -/
def RunsTo (c : Processor) (limit : Option Nat) (r : Except Breakdown Unit × Processor) : Prop :=
  match limit with
  | some n => c.run n = r
  | none => ∃ least, ∀ fuel, least < fuel → c.runToEnd? fuel = some r

/-- A run ends where its processor breaks down. -/
theorem runsTo_of_breaksAfter {c d : Processor} {limit : Option Nat} {k : Nat} {b : Breakdown}
    (clear : c.stopRequested = false) (breaks : c.started.BreaksAfter k b d)
    (within : ∀ n, limit = some n → k < n) :
  c.RunsTo limit (.error b, d.broken b)
  := by
  cases limit with
  | some n => exact run_of_breaksAfter clear breaks (within n rfl)
  | none =>
      use k
      intro fuel enough
      have final : Processor.ended (.error b d) = true := rfl
      rw [runToEnd?, breaks.tickUpTo (c := c.started) clear enough, if_pos final, conclude]

theorem bare_of_hushed {c d : Processor} (same : c.hushed = d.hushed) :
  c.silence.bare = d.silence.bare
  := congrArg (fun e => e.bare) same

end Processor

namespace Joint

open Processor

section

/-! ### The same run alone -/

variable {c d : Processor} {rs : List Request} {limit : Option Nat} {j : Joint}
  (clear : c.stopRequested = false) (paced : Paced False limit c.ticks j)
  (made : tickTimes (rs.count .tick) c.started = .ok () d) (alike : d.hushed = (c.play rs).hushed)

include clear paced made alike

/-- A processor that made all its ticks beside a host makes them alone. -/
theorem alone_of_quiet (next : j.cpuMove = .finished none)
    (same : j.system.cpu.bare = (c.play rs).silence.bare) :
  ∃ n, limit = some n ∧ c.run n = (.ok (), d.stopped n)
  := by
  have pace : j.system.cpu.tally = d.tally :=
    (congrArg (fun e => e.tally) same).trans (congrArg (fun e => e.tally) alike).symm
  obtain ⟨limited, waits⟩ := paced.waits_of_behind (congrArg ProcessorMove.place next) id
    (paced_of_tickTimes (c := c.started) made pace)
  exact ⟨_, limited, run_of_ok clear made waits⟩

/-- A processor that a tick of which failed beside a host fails in the same tick alone. -/
theorem alone_of_failed {e : Fault} {d₀ : Processor}
    (next : j.cpuMove = .finished (some (d₀.breakdownFor e)))
    (failed : begun .readKeys (c.play rs) = .error e d₀)
    (same : j.system.cpu.bare = d₀.silence.bare) :
  ∃ d' : Processor, d'.hushed = d₀.hushed ∧
    c.RunsTo limit (.error (d₀.breakdownFor e), d'.broken (d₀.breakdownFor e))
  := by
  obtain ⟨d', failed', alike'⟩ := Overlooks.of_error alike failed
  have fails : FailsAfter c.started (rs.count .tick) d e d' := ⟨made, tick_eq_error_iff.mpr failed'⟩
  have inside : j.cpuMove.place = .inside := by
    rw [next]
    exact (place_breakdownFor d₀ e).2
  have pace : j.system.cpu.tally = d'.tally :=
    (congrArg (fun e => e.tally) same).trans (congrArg (fun e => e.tally) alike').symm
  obtain ⟨waits, less⟩ := paced.waits_of_inside inside (fails.paced pace)
  have breaks := breaksAfter_of_failsAfter (c := c.started) fails waits
  rw [breakdownFor_of_passive alike' e] at breaks
  exact ⟨d', alike', runsTo_of_breaksAfter clear breaks less⟩

/-- A processor that was stranded beside a host is stranded after the same tick alone. -/
theorem alone_of_far (next : j.cpuMove = .finished (some .endlessWait))
    (same : j.system.cpu.bare = (c.play rs).silence.bare) :
  c.RunsTo limit (.error .endlessWait, d.silence)
  := by
  have pace : j.system.cpu.tally = d.tally :=
    (congrArg (fun e => e.tally) same).trans (congrArg (fun e => e.tally) alike).symm
  obtain ⟨k, counts, waits, far, less⟩ :=
    paced.waits_of_stranded (congrArg ProcessorMove.place next)
      (paced_of_tickTimes (c := c.started) made pace)
  rw [counts] at made
  exact runsTo_of_breaksAfter clear (breaksAfter_of_far (c := c.started) clear made waits far) less

end

/-- How a host ends whose processor had the outcome `result`, if it knew of the breakdown `known`
before. -/
def endingOf (result : Except Breakdown Unit) (known : Option Breakdown) : Ending :=
  match result, known with
  | .error b, _ => .broken b
  | .ok _, some b => .broken b
  | .ok _, none => .quiet

/-- Take a processor and a host whose devices do not fail, and suppose that the host publishes the
same keys in all refreshes, which are the keys that the program sees already, and that the processor
is not asked to stop before it has finished. However their moves are interleaved with each other and
with what the user does, the processor ends as in a run that it makes alone, the host passes on the
breakdown of this run, if there is one, and what the display shows in the end is the frame that can be
taken from the processor then. -/
theorem run_deterministic {s : System} {limit : Option Nat} {keys : KeySnapshot}
    (ready : s.host.Ready) (bits : s.cpu.machine.screen.vram.IsBits)
    (sound : ∀ f, s.cpu.pending? = some f → f.Sound) (seen : s.cpu.Steady keys)
    {es : List Event}
    (published : ∀ states, .publish states ∈ (start limit s).requests es → states = keys.toList)
    (unasked : ∀ before, before <+: es → ((start limit s).along before).cpuFinished = false →
      ((start limit s).along before).system.cpu.stopRequested = false)
    (ended : ((start limit s).along es).hostFinished = true) :
  let j := (start limit s).along es
  ∃ result final, s.cpu.RunsTo limit (result, final) ∧ j.system.cpu.bare = final.bare ∧
    j.ending? = some (endingOf result s.host.lastBreakdown) ∧
    j.system.host.renderer.display.frame =
      final.machine.screen.takeFrame.1.or s.host.renderer.display.frame
  := by
  intro j
  let rs := (start limit s).requests es
  have clear : s.cpu.stopRequested = false := unasked [] List.nil_prefix rfl
  have frames := delivers_from limit ready bits sound es
  have gone := gone_along limit ready bits sound es
  have linear := linear_along limit s es
  have paced := paced_along limit unasked
  have learned : j.system.host.lastBreakdown = j.cpuMove.breakdown?.or s.host.lastBreakdown :=
    lastBreakdown_along limit s es
  have pending : ((s.cpu.play rs).leftAt j.cpuMove).pending? =
      ((start limit s).publications es).getLast?.or s.cpu.pending? := pending_along limit s es
  -- The host has finished, so it has shown the last frame, and the processor has finished as well.
  obtain ⟨error, atEnd⟩ := exists_hostMove ended
  have unfailing := frames.unfailing
  rw [atEnd] at unfailing
  obtain rfl : error = none := unfailing
  have late : 3 ≤ ((start limit s).along es).hostMove.stage := by
    rw [atEnd]
    exact Nat.le_refl 3
  have awaits := frames.awaits
  rw [gone.emptied late] at awaits
  have shown : j.system.host.renderer.display.frame =
      ((s.cpu.play rs).leftAt j.cpuMove).pending?.or s.host.renderer.display.frame := by
    rw [pending, frames.frame, awaits.2, List.getLast?_append, getLast?_toList]
    rfl
  obtain ⟨breakdown, next⟩ := exists_cpuMove (gone.joined (Nat.le_of_succ_le late)).1
  -- The ticks beside the host are those of a processor that runs alone.
  have begins : s.cpu.started.Steady keys := ⟨seen.seen, seen.waiting⟩
  obtain ⟨-, d, made, alike, -⟩ :=
    steady_play seen begins rfl linear.ticks published linear.completes
  have follows : Follows s.cpu rs j.cpuMove j.system.cpu := linear.follows
  have last {p : ProcessorMove} {final : Processor} (move : j.cpuMove = p)
      (waits : ((s.cpu.play rs).leftAt p).pending? = final.pending?) :
      j.system.host.renderer.display.frame =
        final.machine.screen.takeFrame.1.or s.host.renderer.display.frame := by
    rw [shown, move, waits]
    rfl
  rw [next] at follows learned
  rw [ending?, atEnd]
  cases breakdown with
  | none =>
      obtain ⟨n, rfl, alone⟩ := alone_of_quiet clear paced made alike next follows
      use .ok (), d.stopped n, alone, follows.trans (bare_of_hushed alike).symm
      constructor
      · dsimp only
        rw [learned]
        cases s.host.lastBreakdown <;> rfl
      · exact last next (pending?_of_hushed alike).symm
  | some b =>
      obtain ⟨d₁, ⟨d₀, breaks, same⟩, silenced⟩ := follows
      have final : j.system.cpu.bare = d₀.silence.bare := by
        rw [silenced, silence_bare, same, ← silence_bare]
      rcases breaks with ⟨e, failed, rfl⟩ | ⟨rfl, -, rfl⟩
      · obtain ⟨d', alike', alone⟩ := alone_of_failed clear paced made alike next failed final
        have broken : (d'.broken (d₀.breakdownFor e)).bare = d'.silence.bare ∧
            (d'.broken (d₀.breakdownFor e)).pending? = d'.pending? := by
          cases d₀.breakdownFor e <;> exact ⟨rfl, rfl⟩
        use .error (d₀.breakdownFor e), d'.broken (d₀.breakdownFor e), alone
        constructor
        · rw [broken.1, final, bare_of_hushed alike']
        constructor
        · dsimp only
          rw [learned]
          rfl
        · apply last next
          rw [broken.2, leftAt, (ProcessorMove.upTo_breakdownFor d₀ e).2, failed]
          exact (pending?_of_hushed alike').symm
      · use .error .endlessWait, d.silence, alone_of_far clear paced made alike next final
        constructor
        · rw [final, bare_of_hushed alike]
        constructor
        · dsimp only
          rw [learned]
          rfl
        · exact last next (pending?_of_hushed alike).symm

/-- A host that refreshes while the processor is in its second tick of two. -/
def refreshInTick : List Event :=
  List.flatten
    [List.replicate 8 (.move .cpu), List.replicate 4 (.move .host), List.replicate 6 (.move .cpu),
      List.replicate 4 (.move .host)]

/-- The keys are published and the frame is taken in the middle of a tick, and both ticks are made
as if nothing had happened. -/
theorem run_deterministic_refresh :
  ((start (some 2) blinkingBeside).along refreshInTick).hostFinished = true ∧
    ∃ result final, blinking.run 2 = (result, final) ∧
      ((start (some 2) blinkingBeside).along refreshInTick).system.cpu.bare = final.bare ∧
      ((start (some 2) blinkingBeside).along refreshInTick).ending? =
        some (endingOf result none) ∧
      ((start (some 2) blinkingBeside).along refreshInTick).system.host.renderer.display.frame =
        final.machine.screen.takeFrame.1.or none
  := by
  have ready : blinkingBeside.host.Ready := by
    refine ⟨⟨rfl, rfl, ?_⟩, KeyboardKind.noConfusion⟩
    intro w absurd
    cases absurd
  have reached : Reachable blinking :=
    .boot (idle (.ofList [7])) [0xd0, 0x05, 0x12, 0x00] (by decide)
  have bits : blinkingBeside.cpu.machine.screen.vram.IsBits := reached.inBounds.vram
  have empty : blinkingBeside.cpu.pending? = none ∧
      blinkingBeside.cpu.keyChannel.slot.pending? = none ∧
      blinkingBeside.cpu.machine.keys = Vector.replicate 16 false := by decide +kernel
  have run : ((start (some 2) blinkingBeside).along refreshInTick).hostFinished = true ∧
      (∀ r ∈ (start (some 2) blinkingBeside).requests refreshInTick,
        r = .tick ∨ r = .publish (Vector.replicate 16 false).toList) ∧
      ∀ k ∈ List.range 23,
        ((start (some 2) blinkingBeside).along (refreshInTick.take k)).cpuFinished = false →
        ((start (some 2) blinkingBeside).along
          (refreshInTick.take k)).system.cpu.stopRequested = false := by decide +kernel
  obtain ⟨none, silent, seen⟩ := empty
  obtain ⟨ended, requests, unasked⟩ := run
  have sound : ∀ f, blinkingBeside.cpu.pending? = some f → f.Sound := by
    intro f waits
    cases none.symm.trans waits
  have steady : blinkingBeside.cpu.Steady (Vector.replicate 16 false) := by
    use seen
    intro snapshot waits
    cases silent.symm.trans waits
  have published : ∀ states,
      .publish states ∈ (start (some 2) blinkingBeside).requests refreshInTick →
      states = (Vector.replicate 16 false).toList := by
    intro states member
    rcases requests _ member with absurd | same
    · cases absurd
    · exact Request.publish.inj same
  use ended
  apply @run_deterministic blinkingBeside (some 2) _ ready bits sound steady _ published _ ended
  intro before begins
  rw [List.prefix_iff_eq_take.mp begins]
  apply unasked
  rw [List.mem_range]
  exact Nat.lt_succ_of_le begins.length_le

end Joint

end Chip8
