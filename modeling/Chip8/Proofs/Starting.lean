import Chip8.Proofs.Rates
import Chip8.Proofs.Rebooting
import Chip8.Proofs.Report

/-!
# Starting with the plain renderer

A start with the plain renderer fails to load the program, fails to equip the machine, or comes to
its run, which ends quietly or with a halt, whatever the schedule (`Startup.ends_cases`). Each stage
of the start is told by what its results and its failures have in common (`Startup.Meets`); the run
goes on beside a host whose devices do not fail.
-/

namespace Chip8

/-- Whether a failure is one of loading: no renderer has the name, or there is no program that
fits. -/
def Failure.isOfLoading : Failure → Bool
  | .unknownRenderer _ | .unreadable .. | .romTooLarge _ => true
  | .missingOption _ | .unusableOption _ | .badFileName | .device _ | .fault _ | .broken _
  | .failed _ => false

/-- Whether a setting is one of its kind: it is left to its default, or a value is given. -/
def Setting.isUsable {α : Type} : Setting α → Bool
  | usual | given _ => true
  | blank | odd => false

theorem Setting.isUsable_map {α β : Type} (f : α → β) (setting : Setting α) :
  (setting.map f).isUsable = setting.isUsable
  := by cases setting <;> rfl

/-- The text of the keymap that is used. -/
def Command.Settings.keymapText (settings : Settings) : String :=
  let given := settings.keymap.getD ""
  if given = "" then Keymap.defaultText else given

namespace Startup

/-! ### Executions -/

/-- The results with which a start can end, whatever the schedule of its run and whatever the users
do meanwhile. -/
inductive Ends (o : Options) (around : Surroundings) : Except Failure Unit × Transcript → Prop where
  /-- It does not come to its run. -/
  | unready {f : Failure} {t : Transcript} (failed : prepare o around .empty = .error f t) :
      Ends o around (.error f, t)
  /-- Its run comes to an end. -/
  | ran {s : System} {t : Transcript} {es : List Joint.Event} {ending : Joint.Ending}
      (prepared : prepare o around .empty = .ok s t)
      (ended : ((Joint.start none s).along es).ending? = some ending) :
      Ends o around (outcome (conclude ending ((Joint.start none s).along es).system t))

end Startup

theorem ProcessorMove.eq_finished_of_breakdown? {move : ProcessorMove} {b : Breakdown}
    (broken : move.breakdown? = some b) :
  move = .finished (some b)
  := by
  cases move with
  | finished other =>
      rw [ProcessorMove.breakdown?] at broken
      rw [broken]
  | _ => cases broken

namespace Joint

/-- The moves of one of the two are events. -/
theorem cpuTurns_eq_along (j : Joint) (fuel : Nat) :
  ∃ es, j.cpuTurns fuel = j.along es
  := by
  induction fuel generalizing j with
  | zero => exact ⟨[], rfl⟩
  | succ fuel ih =>
      rw [cpuTurns]
      split
      · exact ⟨[], rfl⟩
      · obtain ⟨es, same⟩ := ih j.cpuTurn
        exact ⟨.move .cpu :: es, same⟩

theorem hostTurns_eq_along (j : Joint) (fuel : Nat) :
  ∃ es, j.hostTurns fuel = j.along es
  := by
  induction fuel generalizing j with
  | zero => exact ⟨[], rfl⟩
  | succ fuel ih =>
      rw [hostTurns]
      split
      · exact ⟨[], rfl⟩
      · obtain ⟨es, same⟩ := ih j.hostTurn
        exact ⟨.move .host :: es, same⟩

end Joint

namespace Startup

/-- A start that was run has ended in one of these ways. -/
theorem ends_of_run? {o : Options} {around : Surroundings} {fuel : Nat}
    {result : Except Failure Unit × Transcript} (ran : run? o around fuel = some result) :
  Ends o around result
  := by
  rw [run?] at ran
  split at ran
  · next failed =>
      cases ran
      exact .unready failed
  · next s t prepared =>
      obtain ⟨⟨ending, final⟩, finished, ⟨⟩⟩ := Option.bind_eq_some_iff.mp ran
      obtain ⟨e, ended, ⟨⟩⟩ := Option.bind_eq_some_iff.mp finished
      obtain ⟨early, first⟩ := (Joint.start none s).cpuTurns_eq_along fuel
      obtain ⟨late, second⟩ :=
        ((Joint.start none s).cpuTurns fuel).hostTurns_eq_along Joint.closingTurns
      have same : (Joint.start none s).along (early ++ late) =
          ((Joint.start none s).cpuTurns fuel).hostTurns Joint.closingTurns := by
        rw [second, first]
        exact List.foldl_append
      rw [← same] at ended ⊢
      exact Ends.ran prepared ended

/-! ### Stages -/

/-- Whatever the transcript before it, what an action yields is `good`, and the failure that it ends
with is `bad`. -/
def Meets {α : Type} (a : Launch α) (good : α → Prop) (bad : Failure → Prop) : Prop :=
  ∀ t, match a t with
    | .ok x _ => good x
    | .error f _ => bad f

section

variable {α β : Type} {a : Launch α} {good : α → Prop} {bad : Failure → Prop}

theorem Meets.weaken {good' : α → Prop} {bad' : Failure → Prop} (h : Meets a good bad)
    (better : ∀ x, good x → good' x) (worse : ∀ f, bad f → bad' f) :
  Meets a good' bad'
  := by
  intro t
  have key := h t
  split at key
  · apply better _ key
  · apply worse _ key

theorem Meets.mono {bad' : Failure → Prop} (h : Meets a good bad) (worse : ∀ f, bad f → bad' f) :
  Meets a good bad'
  := h.weaken (fun _ => id) worse

theorem Meets.bind {f : α → Launch β} {good' : β → Prop} (h : Meets a good bad)
    (next : ∀ x, good x → Meets (f x) good' bad) :
  Meets (a >>= f) good' bad
  := by
  intro t
  have key := h t
  cases ended : a t with
  | ok x t' =>
      rw [ended] at key
      rw [bind_of_ok ended]
      apply next x key
  | error e t' =>
      rw [ended] at key
      rw [bind_of_error ended]
      exact key

theorem meets_pure {x : α} (h : good x) :
  Meets (pure x) good bad
  := fun _ => h

theorem meets_throw {f : Failure} (h : bad f) :
  Meets (throw f : Launch α) good bad
  := fun _ => h

end

theorem meets_modify {f : Transcript → Transcript} {bad : Failure → Prop} :
  Meets (modify f) (fun _ => True) bad
  := fun _ => trivial

theorem meets_value? {α : Type} (name : String) {setting : Setting α}
    (usable : setting.isUsable = true) {bad : Failure → Prop} :
  Meets (value? name setting) (fun v => ∀ other, v.getD other = setting.getD other) bad
  := by
  cases setting with
  | usual => exact meets_pure fun _ => rfl
  | given a => exact meets_pure fun _ => rfl
  | blank => cases usable
  | odd => cases usable

theorem meets_loadFile {read : FileReader} {name : String}
    (allowed : read name ≠ .error .badName) :
  Meets (loadFile read name) (fun rom => read name = .ok rom) fun f =>
    ∃ code reason, read name = .error (.refused code reason) ∧
      f = .unreadable (some name) code reason
  := by
  rw [loadFile]
  cases file : read name with
  | ok rom => exact meets_modify.bind fun _ _ => meets_pure rfl
  | error e =>
      cases e with
      | refused code reason => exact meets_throw ⟨code, reason, rfl, rfl⟩
      | badName => exact absurd file allowed

theorem meets_boot (random : RandomSource) (rom : List UInt8) :
  Meets (boot random rom)
    (fun m => rom.length ≤ Machine.programRoom ∧ m = (Machine.initial random).booted rom)
    fun f => Machine.programRoom < rom.length ∧ f = .romTooLarge rom.length
  := by
  rw [boot]
  rcases Nat.lt_or_ge Machine.programRoom rom.length with long | short
  · rw [Machine.boot_eq_error _ long]
    exact meets_throw ⟨long, rfl⟩
  · rw [Machine.boot_eq_ok _ short]
    exact meets_pure ⟨short, rfl⟩

/-! ### The devices -/

theorem meets_fromDevice {α : Type} (r : Except HostError α) :
  Meets (fromDevice r) (fun x => r = .ok x) fun f => ∃ e, r = .error e ∧ f = .device e
  := by
  cases r with
  | ok x => exact meets_pure rfl
  | error e => exact meets_throw ⟨e, rfl, rfl⟩

theorem meets_openRenderer {around : Surroundings} (scale : Setting Int) (palette : Setting String)
    {bad : Failure → Prop} :
  Meets (openRenderer around .plain scale palette) Renderer.Ready bad
  := by
  rw [openRenderer]
  dsimp only
  rw [pure_bind]
  apply meets_modify.bind
  intro _ _
  apply meets_pure
  refine ⟨rfl, rfl, ?_⟩
  intro w is
  cases is

theorem meets_keymap {setting : Setting String} (even : setting ≠ .odd) {bad : Failure → Prop} :
  Meets (valueOrBlank? "keymap" setting) (fun v => v.getD "" = setting.getD "") bad
  := by
  cases setting with
  | odd => exact absurd rfl even
  | _ => exact meets_pure rfl

theorem meets_openKeyboard (keymap : String) :
  let text := if keymap = "" then Keymap.defaultText else keymap
  Meets (openKeyboard .plain keymap)
    (fun k => k.kind = .headless ∧ ∃ m, Keymap.ofText text = .ok m)
    fun f => ∃ e, Keymap.ofText text = .error e ∧ f = .device e
  := by
  intro text
  rw [openKeyboard]
  apply (meets_fromDevice _).bind
  intro m good
  apply meets_modify.bind
  intro _ _
  exact meets_pure ⟨rfl, m, good⟩

theorem meets_openBuzzer {around : Surroundings} (mute : Bool) {bad : Failure → Prop} :
  Meets (openBuzzer around .plain mute) (fun _ => True) bad
  := by
  rw [openBuzzer]
  apply meets_modify.bind
  intro _ _
  exact meets_pure trivial

/-- There is a processor for every integer rate which is not too large, and it can wait for every
tick. -/
theorem ofMachine_cases (machine : Machine) (live : Bool) (n : Int) (clock : Clock) :
  (∃ c, Processor.ofMachine machine live (.integer n) clock = .ok c ∧ n < Binary64.overflow ∧
      c.machine = machine ∧ ∀ tick, c.canWaitAt tick = true) ∨
    Processor.ofMachine machine live (.integer n) clock = .error (.rateTooLarge n) ∧
      (Binary64.overflow : Int) ≤ n
  := by
  rw [Processor.ofMachine]
  cases known : (Rate.integer n).interval with
  | error e =>
      obtain ⟨large, rfl⟩ := Rate.interval_eq_error_iff.mp known
      exact .inr ⟨rfl, large⟩
  | ok interval =>
      left
      refine ⟨_, rfl, ?_, rfl, ?_⟩
      · apply Int.lt_of_not_ge
        intro large
        cases known.symm.trans (Rate.interval_eq_error_iff.mpr ⟨large, rfl⟩)
      · intro tick
        cases interval with
        | none => rfl
        | some t => exact Rate.canWait_interval known clock tick

/-! ### Up to the run -/

/-- Everything between booting the machine and the run, with the plain renderer. -/
def equip (around : Surroundings) (settings : Command.Settings) (machine : Machine) :
    Launch System := do
  let renderer ← openRenderer around .plain settings.scale settings.palette
  let keymap := (← valueOrBlank? "keymap" settings.keymap).getD ""
  let keyboard ← openKeyboard .plain keymap
  let buzzer ← openBuzzer around .plain (settings.mute.getD false)
  let rate := (← value? "rate" (settings.rate.map .integer)).getD (.integer Rate.usual)
  match Processor.ofMachine machine settings.debug rate around.clock with
  | .ok cpu =>
      return {
        cpu := cpu
        host := {
          renderer := renderer
          keyboard := keyboard
          buzzer := buzzer
          desktop := none
          lastBreakdown := none } }
  | .error f => throw (.fault f)

/-- The failures for which a machine is not equipped. -/
inductive Unequipped (settings : Command.Settings) : Failure → Prop where
  | badKeymap {e : HostError} (bad : Keymap.ofText settings.keymapText = .error e) :
      Unequipped settings (.device e)
  | tooFast {m : Keymap} {n : Int} (good : Keymap.ofText settings.keymapText = .ok m)
      (rate : settings.rate = .given n) (large : (Binary64.overflow : Int) ≤ n) :
      Unequipped settings (.fault (.rateTooLarge n))

/-- A machine is equipped for its run. -/
structure Equipped (settings : Command.Settings) (machine : Machine) (s : System) : Prop where
  machine : s.cpu.machine = machine
  slow : ∀ n, settings.rate = .given n → n < Binary64.overflow
  waits : ∀ tick, s.cpu.canWaitAt tick = true
  ready : s.host.Ready
  lastBreakdown : s.host.lastBreakdown = none

theorem meets_equip {around : Surroundings} {settings : Command.Settings}
    (rate : settings.rate.isUsable = true) (keymap : settings.keymap ≠ .odd) (machine : Machine) :
  Meets (equip around settings machine) (Equipped settings machine) (Unequipped settings)
  := by
  rw [equip]
  apply (meets_openRenderer _ _).bind
  intro renderer ready
  apply (meets_keymap keymap).bind
  intro text same
  rw [same]
  apply ((meets_openKeyboard _).mono _).bind
  · rintro keyboard ⟨headless, m, good⟩
    apply (meets_openBuzzer _).bind
    intro buzzer _
    apply (meets_value? "rate" ((Setting.isUsable_map _ _).trans rate)).bind
    intro value same
    have integer : value.getD (.integer Rate.usual) =
        .integer (settings.rate.getD Rate.usual) := by
      rw [same]
      cases settings.rate <;> rfl
    rw [integer]
    dsimp only
    rcases ofMachine_cases machine settings.debug (settings.rate.getD Rate.usual) around.clock with
      ⟨c, made, slow, same, waits⟩ | ⟨failed, large⟩
    · rw [made]
      apply meets_pure
      constructor
      case machine => exact same
      case waits => exact waits
      case lastBreakdown => rfl
      case slow =>
        intro n given
        rw [given] at slow
        exact slow
      case ready =>
        use ready
        intro desktop
        cases headless.symm.trans desktop
    · rw [failed]
      apply meets_throw
      cases given : settings.rate with
      | given n =>
          rw [given] at large
          exact .tooFast good given large
      | usual =>
          rw [given] at large
          exact absurd large (by decide +kernel)
      | _ =>
          rw [given] at rate
          cases rate
  · rintro f ⟨e, bad, rfl⟩
    exact .badKeymap bad

variable {a : Command.Arguments} {around : Surroundings}

/-- The failures to load the program, by what was read of the file. -/
inductive Unloaded (name : String) : Except ReadError (List UInt8) → Failure → Prop where
  | unreadable (code : Nat) (reason : String) :
      Unloaded name (.error (.refused code reason)) (.unreadable (some name) code reason)
  | tooLarge {rom : List UInt8} (long : Machine.programRoom < rom.length) :
      Unloaded name (.ok rom) (.romTooLarge rom.length)

theorem Unloaded.kind {name : String} {file : Except ReadError (List UInt8)} {f : Failure}
    (h : Unloaded name file f) :
  f.isReported = true ∧ f.isOfLoading = true ∧ (∀ b, f ≠ .broken b) ∧
    ¬∃ rom, file = .ok rom ∧ rom.length ≤ Machine.programRoom
  := by
  cases h with
  | unreadable code reason =>
      refine ⟨rfl, rfl, fun b => Failure.noConfusion, ?_⟩
      rintro ⟨rom, ⟨⟩, -⟩
  | tooLarge long =>
      refine ⟨rfl, rfl, fun b => Failure.noConfusion, ?_⟩
      rintro ⟨rom, ⟨⟩, short⟩
      exact absurd short (Nat.not_le_of_lt long)

/-- The failures for which a start with the plain renderer does not come to its run, by what was
read of the file. -/
inductive Unready (a : Command.Arguments) :
    Except ReadError (List UInt8) → Failure → Prop where
  | unloaded {file : Except ReadError (List UInt8)} {f : Failure}
      (h : Unloaded a.filename file f) : Unready a file f
  | unequipped {rom : List UInt8} {f : Failure} (short : rom.length ≤ Machine.programRoom)
      (h : Unequipped a.settings f) : Unready a (.ok rom) f

/-- The system with which a run begins. -/
def Begins (a : Command.Arguments) (file : Except ReadError (List UInt8)) (s : System) : Prop :=
  ∃ rom random, file = .ok rom ∧ rom.length ≤ Machine.programRoom ∧
    Equipped a.settings ((Machine.initial random).booted rom) s

theorem prepare_plain (plain : a.settings.renderer = .given RendererKind.plain.name) :
  prepare a.options around = (do
    say Product.banner
    let rom ← loadFile around.read a.filename
    let seed := (← value? "seed" (a.settings.seed.map .integer)).elim around.entropy Seed.number
    equip around a.settings (← boot (.ofSeed seed) rom))
  := by
  rw [prepare]
  simp only [Command.Arguments.options, plain]
  rfl

/-- A start with the plain renderer comes to its run or fails for one of the known reasons. -/
theorem meets_prepare (plain : a.settings.renderer = .given RendererKind.plain.name)
    (rate : a.settings.rate.isUsable = true) (seed : a.settings.seed.isUsable = true)
    (keymap : a.settings.keymap ≠ .odd) (allowed : around.read a.filename ≠ .error .badName) :
  Meets (prepare a.options around) (Begins a (around.read a.filename))
    (Unready a (around.read a.filename))
  := by
  rw [prepare_plain plain]
  apply meets_modify.bind
  intro _ _
  apply ((meets_loadFile allowed).mono _).bind
  · intro rom file
    rw [file]
    apply (meets_value? "seed" ((Setting.isUsable_map _ _).trans seed)).bind
    intro given _
    apply ((meets_boot _ rom).mono _).bind
    · rintro _ ⟨short, rfl⟩
      apply (meets_equip rate keymap _).weaken
      · intro s equipped
        exact ⟨rom, _, rfl, short, equipped⟩
      · intro f lacks
        exact .unequipped short lacks
    · rintro f ⟨long, rfl⟩
      exact .unloaded (.tooLarge long)
  · rintro f ⟨code, reason, file, rfl⟩
    rw [file]
    exact .unloaded (.unreadable code reason)

/-! ### The run -/

/-- A machine that was booted runs beside a host whose devices do not fail, and with ticks that can all
be waited for, until its end, and halts only for faults that halt a processor. -/
theorem ending_of_ready {m : Machine} {rom : List UInt8} {s : System}
    (machine : s.cpu.machine = m.booted rom) (empty : m.screen.display.pending? = none)
    (waits : ∀ tick, s.cpu.canWaitAt tick = true) (ready : s.host.Ready)
    (fresh : s.host.lastBreakdown = none) {es : List Joint.Event} {ending : Joint.Ending}
    (ended : ((Joint.start none s).along es).ending? = some ending) :
  ending = .quiet ∨
    ∃ halt, ending = .broken (.halt halt) ∧ halt.cause.isHalting = true ∧ halt.report ≠ ""
  := by
  have bounds : s.cpu.machine.InBounds := by
    rw [machine]
    apply Machine.booted_inBounds
  have empty : s.cpu.machine.screen.display.pending? = none := by
    rw [machine]
    exact empty
  have unfailing := (Joint.delivers_along none ready bounds.vram empty es).unfailing
  have follows := (Joint.linear_along none s es).follows
  have learned := Joint.lastBreakdown_along none s es
  rw [fresh, Option.or_none] at learned
  rw [Joint.ending?] at ended
  split at ended
  · next e atEnd =>
      rw [atEnd] at unfailing
      cases unfailing
  · next atEnd =>
      rw [learned] at ended
      cases broken : ((Joint.start none s).along es).cpuMove.breakdown? with
      | none =>
          rw [broken] at ended
          cases ended
          exact .inl rfl
      | some b =>
          rw [broken] at ended
          cases ended
          right
          rcases Joint.tells_of_finished bounds follows
              (ProcessorMove.eq_finished_of_breakdown? broken) with
            ⟨halt, e, d, rfl, failed, tells, -⟩ | ⟨-, far⟩
          · have fault := Processor.failure?_tick
              (Processor.play_inBounds bounds ((Joint.start none s).requests es))
            rw [failed] at fault
            refine ⟨halt, rfl, ?_, ?_⟩
            · rw [tells.cause]
              apply (Machine.fault?_kind fault.symm).1
            · rw [tells.dump]
              simp [String.join, String.append_eq_empty_iff]
          · have near := waits (s.cpu.play ((Joint.start none s).requests es)).ticks
            rw [← Processor.canWaitAt_play] at near
            cases near.symm.trans far
  · cases ended

/-- A machine that is equipped comes to its end like this. -/
theorem Equipped.ending {settings : Command.Settings} {random : RandomSource} {rom : List UInt8}
    {s : System} (h : Equipped settings ((Machine.initial random).booted rom) s)
    {es : List Joint.Event} {ending : Joint.Ending}
    (ended : ((Joint.start none s).along es).ending? = some ending) :
  ending = .quiet ∨
    ∃ halt, ending = .broken (.halt halt) ∧ halt.cause.isHalting = true ∧ halt.report ≠ ""
  := ending_of_ready h.machine rfl h.waits h.ready h.lastBreakdown ended

/-! ### Ends -/

/-- A start with the plain renderer does not come to its run, or its run ends quietly or with a
halt. -/
theorem ends_cases (plain : a.settings.renderer = .given RendererKind.plain.name)
    (rate : a.settings.rate.isUsable = true) (seed : a.settings.seed.isUsable = true)
    (keymap : a.settings.keymap ≠ .odd) (allowed : around.read a.filename ≠ .error .badName)
    {result : Except Failure Unit × Transcript} (ended : Ends a.options around result) :
  (∃ f, result.1 = .error f ∧ Unready a (around.read a.filename) f) ∨
    (∃ s, Begins a (around.read a.filename) s) ∧
      (result.1 = .ok () ∨ ∃ h, result.1 = .error (.broken (.halt h)) ∧
        h.cause.isHalting = true ∧ h.report ≠ "")
  := by
  have key := meets_prepare plain rate seed keymap allowed .empty
  cases ended with
  | unready failed =>
      rw [failed] at key
      exact .inl ⟨_, rfl, key⟩
  | ran prepared ended =>
      rw [prepared] at key
      right
      use ⟨_, key⟩
      obtain ⟨rom, random, -, -, equipped⟩ := key
      rcases equipped.ending ended with rfl | ⟨h, rfl, halting, told⟩
      · exact .inl rfl
      · exact .inr ⟨h, rfl, halting, told⟩

end Startup

end Chip8
