import Chip8.Proofs.Devices

/-!
# Delivery of frames

A processor publishes frames through the display slot, and a host whose devices do not fail draws
those that it takes from there. However their moves are interleaved, the frames that were drawn are
some of those that were published, in the same order and each drawn once (`Joint.delivers_along`).
The invariant links the slot to both (`Joint.Awaits`): a frame that waits in the slot is the last
one that was published and was not drawn, and while none waits, the last one that was published is
the last one that was drawn.
-/

namespace Chip8

/-- The error for which the host leaves. -/
def HostMove.error? : HostMove → Option HostError
  | .leave error | .join error | .finished error => error
  | .check | .publishKeys | .showFrame | .switchBuzzer | .showLast => none

namespace Joint

open Processor

/-! ### What is published and what is drawn -/

/-- The frame that an event publishes. -/
def published? (j : Joint) : Event → Option Frame
  | .move .cpu => if j.cpuMove = .present then j.system.cpu.presented? else none
  | .move .host | .keyboard .. | .desktop _ => none

/-- The frame that is drawn in an event, which is told by the renderer. -/
def drawn? (j : Joint) (e : Event) : Option Frame :=
  let before := j.system.host.renderer.display
  let after := (j.happen e).system.host.renderer.display
  if before.drawn < after.drawn then after.frame else none

/-- The frames that events publish, the first one first. -/
abbrev publications (j : Joint) (es : List Event) : List Frame := j.collect published? es

/-- The frames that are drawn in events, the first one first. -/
abbrev drawings (j : Joint) (es : List Event) : List Frame := j.collect drawn? es

/-- How the frames that were drawn compare to those that were published, depending on the frame
that waits in the display slot. -/
def Awaits (published drawn : List Frame) : Option Frame → Prop
  | none => drawn.Sublist published ∧ drawn.getLast? = published.getLast?
  | some f => ∃ earlier, published = earlier ++ [f] ∧ drawn.Sublist earlier

namespace Awaits

variable {published drawn : List Frame} {waiting : Option Frame}

theorem sublist (h : Awaits published drawn waiting) :
  drawn.Sublist published
  := by
  cases waiting with
  | none => exact h.1
  | some f =>
      obtain ⟨earlier, rfl, before⟩ := h
      apply before.trans (List.sublist_append_left earlier [f])

/-- A frame that is published waits from then on. -/
theorem publish (h : Awaits published drawn waiting) (f : Frame) :
  Awaits (published ++ [f]) drawn (some f)
  := ⟨published, rfl, h.sublist⟩

/-- After the frame that waits was drawn, none waits. -/
theorem draw (h : Awaits published drawn waiting) :
  Awaits published (drawn ++ waiting.toList) none
  := by
  cases waiting with
  | none =>
      rw [Option.toList_none, List.append_nil]
      exact h
  | some f =>
      obtain ⟨earlier, rfl, before⟩ := h
      constructor
      · apply before.append_right
      · rw [Option.toList_some, List.getLast?_concat, List.getLast?_concat]

end Awaits

/-! ### The screen and the devices -/

section

variable {α : Type} (j : Joint) (a : ProcessorAction α) (next : ProcessorMove)

theorem perform_machine :
  (j.perform a next).system.cpu.machine = (left (a j.system.cpu)).machine
  := by
  rw [perform]
  cases a j.system.cpu with
  | ok x cpu => rfl
  | error e cpu => apply reported_machine

theorem perform_host :
  (j.perform a next).system.host = j.system.host ∧ (j.perform a next).hostMove = j.hostMove
  := by
  rw [perform]
  cases a j.system.cpu with
  | ok x cpu => exact ⟨rfl, rfl⟩
  | error e cpu => exact ⟨rfl, rfl⟩

end

/-- A move of the processor changes nothing of the host but the breakdown that it learns of. -/
theorem cpuTurn_host (j : Joint) :
  j.cpuTurn.hostMove = j.hostMove ∧
    j.cpuTurn.system.host =
      { j.system.host with lastBreakdown := j.cpuTurn.system.host.lastBreakdown }
  := by
  have performed : ∀ {α : Type} (a : ProcessorAction α) (next : ProcessorMove),
      (j.perform a next).hostMove = j.hostMove ∧ (j.perform a next).system.host =
        { j.system.host with lastBreakdown := (j.perform a next).system.host.lastBreakdown } := by
    intro α a next
    obtain ⟨host, move⟩ := j.perform_host a next
    rw [host]
    exact ⟨move, rfl⟩
  by_cases waiting : j.cpuMove = .wait
  · rw [cpuTurn_wait waiting]
    split <;> exact ⟨rfl, rfl⟩
  rw [cpuTurn]
  cases next : j.cpuMove with
  | wait => exact absurd next waiting
  | decide =>
      dsimp only
      split <;> exact ⟨rfl, rfl⟩
  | close b => cases b <;> exact ⟨rfl, rfl⟩
  | finished b => exact ⟨rfl, rfl⟩
  | _ => apply performed

/-- The processor leaves the display slot unless it presents the screen, and it always leaves bits
in the video memory. -/
theorem cpuTurn_screen {j : Joint} (bits : j.system.cpu.machine.screen.vram.IsBits)
    (other : j.cpuMove ≠ .present) :
  j.cpuTurn.system.cpu.machine.screen.display = j.system.cpu.machine.screen.display ∧
    j.cpuTurn.system.cpu.machine.screen.vram.IsBits
  := by
  by_cases waiting : j.cpuMove = .wait
  · rw [cpuTurn_wait waiting]
    split <;> exact ⟨rfl, bits⟩
  rw [cpuTurn]
  cases next : j.cpuMove with
  | present => exact absurd next other
  | decide =>
      dsimp only
      split <;> exact ⟨rfl, bits⟩
  | execute =>
      dsimp only
      rw [perform_machine]
      exact ⟨step_display _, step_bits bits⟩
  | count =>
      dsimp only
      rw [perform_machine, count_screen]
      exact ⟨rfl, bits⟩
  | readKeys => exact ⟨rfl, bits⟩
  | wait => exact absurd next waiting
  | close b => cases b <;> exact ⟨rfl, bits⟩
  | finished b => exact ⟨rfl, bits⟩

theorem cpuTurn_present {j : Joint} (next : j.cpuMove = .present) :
  j.cpuTurn.system.cpu = j.system.cpu.presented
  := by
  rw [cpuTurn, next]
  dsimp only
  rw [perform, present_eq]

/-- A host that shows a frame takes it from the display slot, draws it and goes on. -/
theorem hostTurn_shows {j : Joint} (ready : j.system.host.Ready)
    (sound : ∀ f, j.system.cpu.machine.screen.display.pending? = some f → f.Sound)
    (shows : j.hostMove = .showFrame ∨ j.hostMove = .showLast) :
  ∃ renderer, j.hostTurn.system =
      { cpu := { j.system.cpu with
          machine := j.system.cpu.machine.withDisplay
            j.system.cpu.machine.screen.display.take.2 }
        host := { j.system.host with renderer := renderer } } ∧
    Host.Ready { j.system.host with renderer := renderer } ∧
    renderer.display =
      j.system.host.renderer.display.taking j.system.cpu.machine.screen.display.pending? ∧
    j.hostTurn.hostMove.error? = none
  := by
  obtain ⟨renderer, shown, ready', drawn⟩ := Host.showFrame_eq_ok ready sound
  use renderer
  rw [hostTurn]
  rcases shows with next | next <;> rw [next] <;> dsimp only <;> rw [attempt, shown]
  · exact ⟨rfl, ready', drawn, rfl⟩
  · exact ⟨rfl, ready', drawn, rfl⟩

/-- A host that does not show a frame leaves the screen and the renderer. -/
theorem hostTurn_other {j : Joint} (ready : j.system.host.Ready)
    (unfailing : j.hostMove.error? = none)
    (other : ¬(j.hostMove = .showFrame ∨ j.hostMove = .showLast)) :
  j.hostTurn.system.cpu.machine.screen = j.system.cpu.machine.screen ∧
    j.hostTurn.system.host.Ready ∧
    j.hostTurn.system.host.renderer = j.system.host.renderer ∧
    j.hostTurn.hostMove.error? = none
  := by
  rw [hostTurn]
  cases next : j.hostMove with
  | check =>
      dsimp only
      split
      · exact ⟨rfl, ready, rfl, rfl⟩
      · obtain ⟨quit, desktop, answered, ready'⟩ := Host.quitAsked_eq_ok ready
        rw [answered]
        cases quit with
        | true => exact ⟨rfl, ready', rfl, rfl⟩
        | false => exact ⟨rfl, ready', rfl, rfl⟩
  | publishKeys =>
      obtain ⟨keyboard, published, ready'⟩ := Host.publishKeys_eq_ok ready
      dsimp only
      rw [attempt, published]
      exact ⟨rfl, ready', rfl, rfl⟩
  | showFrame => exact absurd (.inl next) other
  | switchBuzzer => exact ⟨rfl, ⟨ready.renderer, ready.keyboard⟩, rfl, rfl⟩
  | leave error =>
      rw [next] at unfailing
      exact ⟨rfl, ready, rfl, unfailing⟩
  | join error =>
      rw [next] at unfailing
      obtain rfl : error = none := unfailing
      dsimp only
      split
      · exact ⟨rfl, ⟨ready.renderer, ready.keyboard⟩, rfl, rfl⟩
      · exact ⟨rfl, ready, rfl, congrArg HostMove.error? next⟩
  | showLast => exact absurd (.inr next) other
  | finished error =>
      refine ⟨rfl, ready, rfl, ?_⟩
      show j.hostMove.error? = none
      exact unfailing

/-! ### Frames on their way -/

/-- The frames that were published are on their way to the display, which has those that were drawn
since it had the frames `first`. -/
structure Delivers (first : Display) (published drawn : List Frame) (j : Joint) : Prop where
  ready : j.system.host.Ready
  unfailing : j.hostMove.error? = none
  bits : j.system.cpu.machine.screen.vram.IsBits
  sound : ∀ f, j.system.cpu.machine.screen.display.pending? = some f → f.Sound
  frame : j.system.host.renderer.display.frame = drawn.getLast?.or first.frame
  count : j.system.host.renderer.display.drawn = first.drawn + drawn.length
  awaits : Awaits published drawn j.system.cpu.machine.screen.display.pending?

namespace Delivers

variable {first : Display} {published drawn : List Frame} {j : Joint}

/-- Nothing is drawn in an event that leaves the renderer. -/
theorem drawn?_eq_none {e : Event}
    (same : (j.happen e).system.host.renderer = j.system.host.renderer) :
  j.drawn? e = none
  := by
  rw [drawn?, same]
  exact if_neg (Nat.lt_irrefl _)

/-- The frame that is presented waits in the display slot from then on. -/
theorem presented (h : Delivers first published drawn j) :
  let cpu := j.system.cpu.presented
  cpu.machine.screen.vram.IsBits ∧
    (∀ f, cpu.machine.screen.display.pending? = some f → f.Sound) ∧
    Awaits (published ++ j.system.cpu.presented?.toList) drawn
      cpu.machine.screen.display.pending?
  := by
  dsimp only
  rw [presented?_eq, Processor.presented]
  cases j.system.cpu.machine.screen.redraw with
  | true =>
      use h.bits
      constructor
      · intro f waits
        have same : some j.system.cpu.machine.screen.frame = some f := waits
        rw [← Option.some.inj same]
        apply Screen.frame_sound h.bits
      · apply h.awaits.publish
  | false =>
      use h.bits, h.sound
      rw [if_neg Bool.false_ne_true, if_neg Bool.false_ne_true, Option.toList_none,
        List.append_nil]
      exact h.awaits

theorem cpuTurn (h : Delivers first published drawn j) :
  Delivers first (published ++ (j.published? (.move .cpu)).toList)
    (drawn ++ (j.drawn? (.move .cpu)).toList) j.cpuTurn
  := by
  obtain ⟨sameMove, sameHost⟩ := cpuTurn_host j
  have same : j.cpuTurn.system.host.renderer = j.system.host.renderer := by rw [sameHost]
  have screen : j.cpuTurn.system.cpu.machine.screen.vram.IsBits ∧
      (∀ f, j.cpuTurn.system.cpu.machine.screen.display.pending? = some f → f.Sound) ∧
      Awaits (published ++ (j.published? (.move .cpu)).toList) drawn
        j.cpuTurn.system.cpu.machine.screen.display.pending? := by
    rw [published?]
    by_cases presents : j.cpuMove = .present
    · rw [if_pos presents, cpuTurn_present presents]
      apply h.presented
    · obtain ⟨display, bits⟩ := cpuTurn_screen h.bits presents
      rw [if_neg presents, display, Option.toList_none, List.append_nil]
      exact ⟨bits, h.sound, h.awaits⟩
  obtain ⟨bits, sound, awaits⟩ := screen
  rw [drawn?_eq_none (e := .move .cpu) same, Option.toList_none, List.append_nil]
  constructor
  case ready =>
    rw [sameHost]
    exact ⟨h.ready.renderer, h.ready.keyboard⟩
  case unfailing =>
    rw [sameMove]
    exact h.unfailing
  case bits => exact bits
  case sound => exact sound
  case frame =>
    rw [same]
    exact h.frame
  case count =>
    rw [same]
    exact h.count
  case awaits => exact awaits

/-- What is drawn when the host shows a frame is the frame that waits. -/
theorem drawn?_eq_pending? {renderer : Renderer} {e : Event}
    (shown : (j.happen e).system.host.renderer = renderer) {waiting : Option Frame}
    (display : renderer.display = j.system.host.renderer.display.taking waiting) :
  j.drawn? e = waiting
  := by
  rw [drawn?, shown, display]
  cases waiting with
  | none => exact if_neg (Nat.lt_irrefl _)
  | some f => exact if_pos (Nat.lt_succ_self _)

theorem hostTurn (h : Delivers first published drawn j) :
  Delivers first (published ++ (j.published? (.move .host)).toList)
    (drawn ++ (j.drawn? (.move .host)).toList) j.hostTurn
  := by
  rw [published?, Option.toList_none, List.append_nil]
  by_cases shows : j.hostMove = .showFrame ∨ j.hostMove = .showLast
  · obtain ⟨renderer, system, ready, display, unfailing⟩ := hostTurn_shows h.ready h.sound shows
    have shown : (j.happen (.move .host)).system.host.renderer = renderer := by
      show j.hostTurn.system.host.renderer = renderer
      rw [system]
    rw [drawn?_eq_pending? shown display]
    constructor
    case unfailing => exact unfailing
    all_goals rw [system]
    case ready => exact ready
    case bits => exact h.bits
    case sound =>
      intro f waits
      have taken := Latest.pending?_take j.system.cpu.machine.screen.display
      cases taken.symm.trans waits
    case frame =>
      dsimp only
      rw [display]
      cases j.system.cpu.machine.screen.display.pending? with
      | none =>
          rw [Option.toList_none, List.append_nil]
          exact h.frame
      | some f =>
          rw [Option.toList_some, List.getLast?_concat]
          rfl
    case count =>
      dsimp only
      rw [display]
      cases j.system.cpu.machine.screen.display.pending? with
      | none =>
          rw [Option.toList_none, List.append_nil]
          exact h.count
      | some f =>
          rw [Option.toList_some, List.length_append, List.length_singleton, ← Nat.add_assoc,
            ← h.count]
          rfl
    case awaits =>
      have taken := Latest.pending?_take j.system.cpu.machine.screen.display
      show Awaits published _ j.system.cpu.machine.screen.display.take.2.pending?
      rw [taken]
      exact h.awaits.draw
  · obtain ⟨screen, ready, renderer, unfailing⟩ := hostTurn_other h.ready h.unfailing shows
    rw [drawn?_eq_none (e := .move .host) renderer, Option.toList_none, List.append_nil]
    constructor
    case ready => exact ready
    case unfailing => exact unfailing
    case bits =>
      rw [screen]
      exact h.bits
    case sound =>
      rw [screen]
      exact h.sound
    case frame =>
      rw [renderer]
      exact h.frame
    case count =>
      rw [renderer]
      exact h.count
    case awaits =>
      rw [screen]
      exact h.awaits

theorem happen (h : Delivers first published drawn j) (e : Event) :
  Delivers first (published ++ (j.published? e).toList) (drawn ++ (j.drawn? e).toList)
    (j.happen e)
  := by
  cases e with
  | move t =>
      cases t with
      | cpu => apply h.cpuTurn
      | host => apply h.hostTurn
  | keyboard down quitting =>
      rw [published?, drawn?_eq_none rfl, Option.toList_none, List.append_nil, List.append_nil]
      exact { h with ready := ⟨h.ready.renderer, h.ready.keyboard⟩ }
  | desktop state =>
      rw [published?, drawn?_eq_none rfl, Option.toList_none, List.append_nil, List.append_nil]
      have opened : (j.system.host.desktop.map fun _ => state).isSome =
          j.system.host.desktop.isSome := Option.isSome_map
      exact { h with ready := ⟨h.ready.renderer, fun kind => opened.trans (h.ready.keyboard kind)⟩ }

end Delivers

/-! ### Runs -/

/-- Whatever happens, the frames that were published are on their way to the display, and so is the
frame that waited in the beginning, if there was one. -/
theorem delivers_from (limit : Option Nat) {s : System} (ready : s.host.Ready)
    (bits : s.cpu.machine.screen.vram.IsBits)
    (sound : ∀ f, s.cpu.machine.screen.display.pending? = some f → f.Sound) (es : List Event) :
  Delivers s.host.renderer.display
    (s.cpu.machine.screen.display.pending?.toList ++ (start limit s).publications es)
    ((start limit s).drawings es) ((start limit s).along es)
  := by
  induction es using List.reverseRecOn with
  | nil =>
      obtain ⟨ready', same⟩ := ready.renderer.retitle Product.name
      constructor
      case ready => exact ⟨ready', ready.keyboard⟩
      case unfailing => rfl
      case bits => exact bits
      case sound => exact sound
      case frame => exact congrArg Display.frame same
      case count => exact congrArg Display.drawn same
      case awaits =>
        show Awaits (s.cpu.machine.screen.display.pending?.toList ++ []) []
          s.cpu.machine.screen.display.pending?
        rw [List.append_nil]
        cases s.cpu.machine.screen.display.pending? with
        | none => exact ⟨List.nil_sublist [], rfl⟩
        | some f => exact ⟨[], rfl, List.nil_sublist []⟩
  | append_singleton es e ih =>
      rw [publications, drawings, collect_concat, collect_concat, along_concat, ← List.append_assoc]
      apply ih.happen

/-- Whatever happens, the frames that were published are on their way to the display. -/
theorem delivers_along (limit : Option Nat) {s : System} (ready : s.host.Ready)
    (bits : s.cpu.machine.screen.vram.IsBits)
    (empty : s.cpu.machine.screen.display.pending? = none) (es : List Event) :
  Delivers s.host.renderer.display ((start limit s).publications es)
    ((start limit s).drawings es) ((start limit s).along es)
  := by
  have sound : ∀ f, s.cpu.machine.screen.display.pending? = some f → f.Sound := by
    intro f waits
    cases empty.symm.trans waits
  have key := delivers_from limit ready bits sound es
  rw [empty] at key
  exact key

end Joint

end Chip8
