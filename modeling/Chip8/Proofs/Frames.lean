import Chip8.Proofs.Failure
import Chip8.Proofs.Peripherals

/-!
# Published frames

The frames that a processor publishes are kept beside its run (`Processor.publications`); they are
exactly what its ticks put into the display slot (`Processor.after_display`). After every tick that
completes, the last of them shows the pixels as they are: a redraw is scheduled whenever pixels
change, except by a sprite that reaches beyond the memory, and the program never gets past such a
sprite (`Machine.DrawsBeyond`).
-/

namespace Chip8

/-! ### Frames -/

/-- A frame is sound if it has a bit for each pixel of the machine's screen. -/
structure Frame.Sound (f : Frame) : Prop where
  length : f.length = 2048
  bits : ∀ bit ∈ f, bit ≤ 1

namespace Screen

/-- The pixels of the machine's screen row by row. -/
def frame (fb : Screen .standard) : Frame := fb.vram.extract 0 2048

/-- A screen shows a frame if the frame has the bits of its pixels, row by row. -/
structure Shows (fb : Screen .standard) (f : Frame) : Prop extends Frame.Sound f where
  pixels : ∀ x y : Nat, x < 64 → y < 32 → ∃ bit, f[y * 64 + x]? = some bit ∧ fb.pixel x y = .ok bit

theorem frame_sound {fb : Screen .standard} (bits : fb.vram.IsBits) :
  fb.frame.Sound
  := by
  constructor
  · apply fb.vram.length_extract
  · intro bit member
    obtain ⟨k, -, rfl⟩ := List.mem_map.mp member
    apply bits

theorem getElem?_frame (fb : Screen .standard) {k : Nat} (inside : k < 2048) :
  fb.frame[k]? = some (fb.vram.get k)
  := by
  rw [frame, Memory.extract, List.getElem?_map, List.getElem?_range inside, Option.map_some,
    Nat.zero_add]

theorem frame_shows {fb : Screen .standard} (bits : fb.vram.IsBits) :
  fb.Shows fb.frame
  := by
  constructor
  · apply frame_sound bits
  · intro x y column row
    have inside : y * 64 + x < 2048 := by omega
    use fb.vram.get (y * 64 + x)
    constructor
    · apply fb.getElem?_frame inside
    · have location : ((y : Int) * Geometry.standard.width + x : Int) = (y * 64 + x : Nat) := by
        rw [Int.natCast_add, Int.natCast_mul]
        rfl
      rw [pixel, location]
      apply fb.vram.read_one (by decide) inside

end Screen

namespace Machine

/-- Clearing and drawing schedule a redraw and leave the display slot to it. -/
theorem outcome_screen_drawing (m : Machine) {i : Instruction} (op : Opcode)
    (draws : i ∈ [.clearScreen, .draw]) :
  (m.outcome i op).screen.redraw = true ∧ (m.outcome i op).screen.display = m.screen.display
  := by
  simp only [List.mem_cons, List.not_mem_nil, or_false] at draws
  rcases draws with rfl | rfl
  · exact ⟨rfl, rfl⟩
  · exact ⟨rfl, rfl⟩

/-- No other instruction schedules a redraw. -/
theorem outcome_redraw (m : Machine) (i : Instruction) (op : Opcode) :
  (m.outcome i op).screen.redraw = true ↔
    m.screen.redraw = true ∨ i ∈ [.clearScreen, .draw]
  := by
  by_cases draws : i ∈ [.clearScreen, .draw]
  · rw [(m.outcome_screen_drawing op draws).1]
    exact iff_of_true rfl (.inr draws)
  · rw [m.outcome_screen op draws, or_iff_left draws]

theorem outcome_display (m : Machine) (i : Instruction) (op : Opcode) :
  (m.outcome i op).screen.display = m.screen.display
  := by
  by_cases draws : i ∈ [.clearScreen, .draw]
  · apply (m.outcome_screen_drawing op draws).2
  · rw [m.outcome_screen op draws]

theorem remnant_screen (m : Machine) {i : Instruction} (op : Opcode) (other : i ≠ .draw) :
  (m.remnant i op).screen = m.screen
  := by
  cases i with
  | draw => exact absurd rfl other
  | loadRegisters => apply m.load_screen
  | _ => rfl

/-- A step that fails keeps the screen, unless it fails while it draws. -/
theorem stepped_screen {m : Machine} {e : Fault} (fault : m.fault? = some e)
    (other : m.next? ≠ some .draw) :
  m.stepped.screen = m.screen
  := by
  rw [stepped]
  cases found : m.next? with
  | none => rfl
  | some i =>
      rw [found] at other
      rw [fault?_of_next? found] at fault
      dsimp only
      rw [fault]
      apply m.remnant_screen
      rintro rfl
      exact other rfl

/-! ### Sprites beyond the memory -/

/-- The machine is about to draw a sprite that reaches beyond the memory. -/
structure DrawsBeyond (m : Machine) : Prop where
  found : m.next? = some .draw
  refused : m.fault? ≠ none

/-- What is left of a sprite that reaches beyond the memory reaches beyond it as well. -/
theorem DrawsBeyond.stepped {m : Machine} (h : m.DrawsBeyond) :
  m.stepped.DrawsBeyond
  := by
  have refused := h.refused
  rw [fault?_of_next? h.found] at refused
  -- Neither the word nor the rows of the sprite change.
  have left : m.stepped = m.remnant .draw (.ofWord m.word) := by
    rw [Machine.stepped, h.found]
    dsimp only
    split
    · next granted => exact absurd granted refused
    · rfl
  have found : m.stepped.next? = some .draw := by
    rw [left]
    exact h.found
  constructor
  · apply found
  · rw [fault?_of_next? found, left]
    exact refused

end Machine

namespace Processor

/-! ### Publications -/

/-- The frame that presenting the display publishes, if a redraw is scheduled. -/
def presented? (c : Processor) : Option Frame :=
  match c.present with
  | .ok true d => d.machine.screen.display.value
  | _ => none

/-- The frame that a request publishes. -/
def published? (c : Processor) : Request → Option Frame
  | .tick =>
      match c.step with
      | .ok _ d => d.presented?
      | .error _ _ => none
  | .step | .publish _ => none

/-- The frames that requests publish, the first one first. -/
def publications (c : Processor) : List Request → List Frame
  | [] => []
  | r :: rs => (c.published? r).toList ++ (c.after r).publications rs

theorem presented?_eq (c : Processor) :
  c.presented? = if c.machine.screen.redraw then some c.machine.screen.frame else none
  := by
  rw [presented?, present_eq, presented]
  cases c.machine.screen.redraw with
  | true => rfl
  | false => rfl

theorem publications_concat (c : Processor) (rs : List Request) (r : Request) :
  c.publications (rs ++ [r]) = c.publications rs ++ ((c.play rs).published? r).toList
  := by
  induction rs generalizing c with
  | nil => exact List.append_nil _
  | cons r' rs ih =>
      rw [List.cons_append, publications, publications, ih, List.append_assoc]
      rfl

theorem history_concat (c : Processor) (rs : List Request) (r : Request) :
  c.history (rs ++ [r]) = c.history rs ++ ((c.play rs).executed? r).toList
  := by
  induction rs generalizing c with
  | nil => exact List.append_nil _
  | cons r' rs ih =>
      rw [List.cons_append, history, history, ih, List.append_assoc]
      rfl

/-- A tick that fails publishes nothing, and a tick that completes publishes the pixels that its
instruction leaves if a redraw is scheduled then. -/
theorem tick_screen {c : Processor} (h : c.machine.InBounds) :
  (∃ e, c.machine.fault? = some e ∧ c.tick = .error e c.stepped ∧ c.executed? .tick = none ∧
      c.published? .tick = none ∧ c.after .tick = c.stepped) ∨
    ∃ i, c.machine.fault? = none ∧ c.machine.next? = some i ∧ c.step = .ok () c.stepped ∧
      c.stepped.machine.screen = (c.machine.outcome i (.ofWord c.machine.word)).screen ∧
      c.tick = .ok () (c.after .tick) ∧
      c.executed? .tick = some ⟨c.machine.registers.pc.value, i⟩ ∧
      c.published? .tick = c.stepped.presented? ∧
      (c.after .tick).machine.screen = c.stepped.presented.machine.screen
  := by
  have ended := step_eq h
  rcases tick_cases h with
    ⟨e, fault, failed, idle, after⟩ | ⟨i, sound, found, stepped, ticked, carried, after⟩
  · left
    rw [fault] at ended
    use e, fault, failed, idle
    constructor
    · rw [published?, ended]
      rfl
    · exact after
  · right
    rw [sound] at ended
    obtain ⟨keys, served⟩ := served_machine c.stepped
    use i, sound, found, ended, congrArg Machine.screen stepped
    rw [after, served, published?, ended]
    exact ⟨ticked, carried, rfl, rfl⟩

/-- Publishing is what changes the display slot. -/
theorem after_display {c : Processor} (h : c.machine.InBounds) {r : Request} (noStep : r ≠ .step) :
  (c.after r).machine.screen.display =
    (c.published? r).toList.foldl Latest.put c.machine.screen.display
  := by
  cases r with
  | step => exact absurd rfl noStep
  | publish states =>
      rw [after_publish]
      rfl
  | tick =>
      rcases tick_screen h with
        ⟨e, fault, -, -, silent, after⟩ | ⟨i, -, -, -, stepped, -, -, published, after⟩
      · rw [after, silent]
        apply (Machine.abandoned_stepped h fault).display
      · have same : c.stepped.machine.screen.display = c.machine.screen.display := by
          rw [stepped, Machine.outcome_display]
        rw [after, published, presented?_eq, presented, ← same]
        cases c.stepped.machine.screen.redraw with
        | true => rfl
        | false => rfl

/-- The display slot holds what was published. -/
theorem display_play {c : Processor} (h : c.machine.InBounds) {rs : List Request}
    (ticks : .step ∉ rs) :
  (c.play rs).machine.screen.display =
    (c.publications rs).foldl Latest.put c.machine.screen.display
  := by
  induction rs generalizing c with
  | nil => rfl
  | cons r rs ih =>
      rw [List.mem_cons, not_or] at ticks
      rw [publications, List.foldl_append, ← after_display h (Ne.symm ticks.1)]
      apply ih (after_inBounds h r) ticks.2

/-- A frame that is published shows the pixels after an instruction that was carried out. -/
theorem publications_shown {c : Processor} (h : c.machine.InBounds) {rs : List Request} :
  ∀ f ∈ c.publications rs, ∃ before d, before ++ [.tick] <+: rs ∧
    (c.play before).step = .ok () d ∧ f = d.machine.screen.frame ∧ d.machine.screen.Shows f
  := by
  induction rs generalizing c with
  | nil =>
      intro f member
      cases member
  | cons r rs ih =>
      intro f member
      rcases List.mem_append.mp member with here | later
      · cases r with
        | step => cases here
        | publish states => cases here
        | tick =>
            rcases tick_screen h with
              ⟨e, -, -, -, silent, -⟩ | ⟨i, -, -, stepped, -, -, -, published, -⟩
            · rw [silent] at here
              cases here
            · rw [published, presented?_eq, Option.mem_toList, Option.ite_none_right_eq_some] at here
              obtain ⟨-, same⟩ := here
              obtain rfl := Option.some.inj same
              use [], c.stepped, List.cons_prefix_cons.mpr ⟨rfl, List.nil_prefix⟩, stepped, rfl
              apply Screen.frame_shows (stepped_inBounds h).vram
      · obtain ⟨before, d, begins, shown⟩ := ih (after_inBounds h r) f later
        use r :: before, d, List.cons_prefix_cons.mpr ⟨rfl, begins⟩
        exact shown

/-! ### Frames that are up to date -/

/-- A redraw is scheduled until an instruction was carried out. From then on none is scheduled
between ticks, and the last frame that was published has the pixels as they are. -/
def UpToDate (c : Processor) (rs : List Request) : Prop :=
  if c.history rs = [] then (c.play rs).machine.screen.redraw = true
  else
    (c.play rs).machine.screen.redraw = false ∧
      (c.publications rs).getLast? = some (c.play rs).machine.screen.frame

theorem UpToDate.redraw_iff {c : Processor} {rs : List Request} (h : c.UpToDate rs) :
  (c.play rs).machine.screen.redraw = true ↔ c.history rs = []
  := by
  rw [UpToDate] at h
  split at h
  · next first => exact iff_of_true h first
  · next later => exact iff_of_false (Bool.eq_false_iff.mp h.1) later

/-- A tick that completes schedules no redraw, leaves the pixels as the last frame has them, and
publishes a frame if it is the first one or draws. -/
theorem UpToDate.tick {c : Processor} {rs : List Request} (h : (c.play rs).machine.InBounds)
    (current : c.UpToDate rs) (completes : (c.play rs).CompletesTick) :
  let d := c.play rs
  (d.after .tick).machine.screen.redraw = false ∧
    (c.publications (rs ++ [.tick])).getLast? = some (d.after .tick).machine.screen.frame ∧
    ((d.published? .tick).isSome ↔
      c.history rs = [] ∨ d.machine.next? ∈ [some .clearScreen, some .draw])
  := by
  intro d
  rcases tick_screen h with
    ⟨e, -, failed, -⟩ | ⟨i, -, found, -, stepped, -, -, published, after⟩
  · obtain ⟨d', completed⟩ := completes
    cases failed.symm.trans completed
  · have scheduled := d.machine.outcome_redraw i (.ofWord d.machine.word)
    rw [← stepped, current.redraw_iff] at scheduled
    have drawing : d.machine.next? ∈ [some .clearScreen, some .draw] ↔
        i ∈ [.clearScreen, .draw] := by
      rw [found]
      simp only [List.mem_cons, Option.some.injEq, List.not_mem_nil]
    rw [publications_concat, published, presented?_eq, after, presented, drawing, ← scheduled]
    by_cases redraw : d.stepped.machine.screen.redraw = true
    · rw [if_pos redraw, if_pos redraw]
      use rfl, List.getLast?_concat
      exact iff_of_true rfl redraw
    · -- Neither is this the first instruction, nor does it draw.
      obtain ⟨started, idle⟩ := not_or.mp (mt scheduled.mpr redraw)
      rw [UpToDate, if_neg started] at current
      have same : d.stepped.machine.screen = d.machine.screen := by
        rw [stepped, d.machine.outcome_screen _ idle]
      rw [if_neg redraw, if_neg redraw, Option.toList_none, List.append_nil, same]
      use current.1, current.2
      exact iff_of_false Bool.false_ne_true (same ▸ redraw)

/-- The display is up to date unless the program is stuck at a sprite that reaches beyond the
memory. -/
theorem upToDate_play {c : Processor} (h : c.machine.InBounds)
    (start : c.machine.screen.redraw = true) {rs : List Request} (ticks : .step ∉ rs) :
  c.UpToDate rs ∨ (c.play rs).machine.DrawsBeyond
  := by
  induction rs using List.reverseRecOn with
  | nil => exact .inl start
  | append_singleton rs r ih =>
      obtain ⟨ticks, noStep⟩ := not_or.mp (mt List.mem_append.mpr ticks)
      have bounds : (c.play rs).machine.InBounds := play_inBounds h rs
      have before := ih ticks
      cases r with
      | step => exact absurd (List.mem_singleton_self _) noStep
      | publish states =>
          rw [UpToDate, play_concat, history_concat, publications_concat, after_publish, executed?,
            published?, Option.toList_none, Option.toList_none, List.append_nil, List.append_nil]
          exact before
      | tick =>
          rcases tick_screen bounds with
            ⟨e, fault, -, idle, silent, after⟩ | ⟨i, sound, -, -, -, ticked, carried, -, -⟩
          · by_cases draws : (c.play rs).machine.next? = some .draw
            · right
              have stuck : (c.play rs).machine.DrawsBeyond := by
                use draws
                rw [fault]
                exact Option.some_ne_none e
              rw [play_concat, after]
              apply stuck.stepped
            · left
              have current := before.resolve_right (fun stuck => draws stuck.found)
              have same : (c.play rs).stepped.machine.screen = (c.play rs).machine.screen :=
                Machine.stepped_screen fault draws
              rw [UpToDate, play_concat, history_concat, publications_concat, after, idle, silent,
                Option.toList_none, Option.toList_none, List.append_nil, List.append_nil, same]
              exact current
          · left
            have current := before.resolve_right (fun stuck => stuck.refused sound)
            obtain ⟨redraw, last, -⟩ := UpToDate.tick bounds current ⟨_, ticked⟩
            have started : c.history (rs ++ [.tick]) ≠ [] := by
              rw [history_concat, carried]
              exact List.append_ne_nil_of_right_ne_nil _ (List.cons_ne_nil _ _)
            rw [UpToDate, if_neg started, play_concat]
            exact ⟨redraw, last⟩

/-- The frames that are published are what is put into the display slot, and all of them are the
pixels after an instruction that was carried out. A tick that fails publishes nothing. After a tick
that completes, no redraw is scheduled, and the last frame and the display slot have the pixels as
they are; it publishes a frame exactly if it is the first one since the machine was booted, or
clears the screen or draws. -/
theorem display_follows (c : Processor) {rom : List UInt8}
    (short : rom.length ≤ Machine.programRoom) {rs : List Request} (ticks : .step ∉ rs) :
  let b := c.booted rom
  let d := b.play rs
  d.machine.screen.display = (b.publications rs).foldl Latest.put b.machine.screen.display ∧
    (∀ f ∈ b.publications rs, ∃ before d', before ++ [.tick] <+: rs ∧
      (b.play before).step = .ok () d' ∧ f = d'.machine.screen.frame ∧
      d'.machine.screen.Shows f) ∧
    (∀ e d', d.tick = .error e d' → d.published? .tick = none ∧
      d'.machine.screen.display = d.machine.screen.display) ∧
    ∀ d', d.tick = .ok () d' →
      d'.machine.screen.redraw = false ∧
        (b.publications (rs ++ [.tick])).getLast? = some d'.machine.screen.frame ∧
        d'.machine.screen.display.value = some d'.machine.screen.frame ∧
        d'.machine.screen.Shows d'.machine.screen.frame ∧
        ((d.published? .tick).isSome ↔
          b.history rs = [] ∨ d.machine.next? ∈ [some .clearScreen, some .draw])
  := by
  intro b d
  have reached : Reachable b := .boot c rom short
  have bounds : d.machine.InBounds := (reached.play rs).inBounds
  have redraw : b.machine.screen.redraw = true := by
    show (c.booted rom).machine.screen.redraw = true
    rw [booted_eq c short]
    rfl
  constructor
  · apply display_play reached.inBounds ticks
  constructor
  · apply publications_shown reached.inBounds
  constructor
  · intro e d' failed
    rcases tick_screen bounds with ⟨e', fault, left, -, silent, -⟩ | ⟨i, -, -, -, -, completed, -⟩
    · cases left.symm.trans failed
      exact ⟨silent, (Machine.abandoned_stepped bounds fault).display⟩
    · cases completed.symm.trans failed
  · intro d' completed
    have after : d.after .tick = d' := by
      show left d.tick = d'
      rw [completed]
      rfl
    have current : b.UpToDate rs := by
      apply (upToDate_play reached.inBounds redraw ticks).resolve_right
      intro stuck
      apply stuck.refused
      apply (ending_eq_ok_iff.mp ((tick_eq bounds).symm.trans completed)).1
    obtain ⟨settled, last, drawn⟩ := UpToDate.tick bounds current ⟨d', completed⟩
    have noStep : Request.step ∉ rs ++ [.tick] := by
      rw [List.mem_append, not_or]
      exact ⟨ticks, by decide⟩
    have slot := display_play reached.inBounds noStep
    rw [play_concat] at slot
    rw [← after]
    use settled, last
    constructor
    · rw [slot]
      obtain ⟨fs, same⟩ := List.getLast?_eq_some_iff.mp last
      rw [same, List.foldl_concat]
      rfl
    constructor
    · apply Screen.frame_shows (after_inBounds bounds .tick).vram
    · exact drawn

/-- The processor that is about to draw a digit again and again. -/
def blinking : Processor := (idle (.ofList [7])).booted [0xd0, 0x05, 0x12, 0x00]

/-- While the program only jumps, nothing is published, and when the digit is drawn again, the
pixels that this leaves are. -/
theorem display_follows_blinking :
  ((blinking.play [.tick]).published? .tick).isSome = false ∧
    ((blinking.play [.tick, .tick]).published? .tick).isSome = true ∧
    ((blinking.play [.tick, .tick]).after .tick).machine.screen.display.value =
      some ((blinking.play [.tick, .tick]).after .tick).machine.screen.frame
  := by
  have short : ([0xd0, 0x05, 0x12, 0x00] : List UInt8).length ≤ Machine.programRoom := by decide
  have jumps : (blinking.play [.tick]).machine.fault? = none ∧ blinking.history [.tick] ≠ [] ∧
      (blinking.play [.tick]).machine.next? ∉ [some .clearScreen, some .draw] := by decide +kernel
  have draws : (blinking.play [.tick, .tick]).machine.fault? = none ∧
      (blinking.play [.tick, .tick]).machine.next? ∈ [some .clearScreen, some .draw] := by
    decide +kernel
  have completes : ∀ rs, (blinking.play rs).machine.fault? = none →
      (blinking.play rs).tick = .ok () ((blinking.play rs).after .tick) := by
    intro rs sound
    have bounds := ((Reachable.boot (idle (.ofList [7])) _ short).play rs).inBounds
    rw [← blinking] at bounds
    rw [after_tick bounds, if_pos sound, tick_eq bounds, sound]
    rfl
  obtain ⟨-, -, -, first⟩ := @display_follows (idle (.ofList [7])) _ short [.tick] (by decide)
  obtain ⟨-, -, -, second⟩ :=
    @display_follows (idle (.ofList [7])) _ short [.tick, .tick] (by decide)
  rw [← blinking] at first second
  obtain ⟨-, -, -, -, silent⟩ := first _ (completes _ jumps.1)
  obtain ⟨-, -, shown, -, drawn⟩ := second _ (completes _ draws.1)
  exact ⟨Bool.eq_false_iff.mpr (mt silent.mp (not_or.mpr jumps.2)), drawn.mpr (.inr draws.2), shown⟩

end Processor

end Chip8
