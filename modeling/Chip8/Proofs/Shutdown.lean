import Chip8.Proofs.Keymaps
import Chip8.Proofs.Painting
import Chip8.Proofs.Starting

/-!
# Devices that are left open

What happens to the devices of a start is told by its result (`Startup.devices_of_ends`). Nothing is
opened unless there is a program that fits, and a start that comes to its run closes what it opened,
the renderer last, however the run ends. Between the two it may fail for its keymap or its rate, for
the bytes of the window or for the mixer, and then the devices that were opened stay open
(`Startup.renderer_closed_unless`). The stages of a start are told by the devices that are open before
and after them (`Startup.Opens`), and a failure by those it leaves open (`Failure.leavesOpen`).
-/

namespace Chip8

/-! ### The course of the devices -/

/-- The devices in the order in which they are opened. -/
def Device.all : List Device := [.renderer, .keyboard, .buzzer]

/-- In these events, a renderer that is opened is closed, after all others that are opened. -/
def ClosesRenderer (es : List DeviceEvent) : Prop :=
  .opened .renderer ∈ es → ∃ before after, es = before ++ .closed .renderer :: after ∧
    ∀ d, d ≠ .renderer → .opened d ∈ es → .closed d ∈ before

namespace Failure

/-- The devices that are open when a failure ends the start, because it comes after they were opened
and before the run. -/
def leavesOpen : Failure → List Device
  | missingOption name | unusableOption name =>
      if name = "keymap" then [.renderer] else if name = "rate" then Device.all else []
  | device (.excessive _) | device .keyCount | device .keyNotInteger | device .duplicateKey =>
      [.renderer]
  | device (.noMixer _) => [.renderer, .keyboard]
  | fault _ => Device.all
  | unknownRenderer _ | unreadable .. | badFileName | romTooLarge _ | device _ | broken _
  | failed _ => []

/-- Whether a failure ends a run. -/
def endsRun : Failure → Bool
  | broken _ | failed _ => true
  | _ => false

end Failure

/-- Opening a window fails only if the window system refuses it. -/
theorem Window.ofPalette_error {system : WindowSystem} {scale : Int} {p : Palette} {e : HostError}
    (failed : ofPalette system scale p = .error e) :
  ∃ reason, e = .refused reason
  := by
  rw [ofPalette] at failed
  split at failed
  · cases failed
  · cases failed
    exact ⟨_, rfl⟩

theorem Renderer.tryResize_error {free : Storage} {width height : Int} {r : Renderer} {e : HostError}
    (failed : r.tryResize free width height = .error e) :
  ∃ excess, e = .excessive excess
  := by
  cases r with
  | plain d => cases failed
  | window w =>
      cases set : w.tryResize free width height with
      | ok w' =>
          rw [tryResize, set] at failed
          cases failed
      | error e' =>
          rw [tryResize, set] at failed
          cases failed
          exact Window.tryResize_error set

namespace Startup

/-- What happens to the devices of a start that comes to its run. -/
def course : List DeviceEvent := Device.all.map .opened ++ Device.all.reverse.map .closed

/-- What happens to the devices of a start, by its result. -/
def courseOf : Except Failure Unit → List DeviceEvent
  | .ok _ => course
  | .error f => if f.endsRun then course else f.leavesOpen.map .opened

/-- There is a program, and it fits. -/
def Loads (o : Options) (read : FileReader) : Prop :=
  ∃ name rom, o.filename = some (.given (.file name)) ∧ read name = .ok rom ∧
    rom.length ≤ Machine.programRoom

/-! ### Stages that open devices -/

/-- A failure tells that just these devices are open, of which there are none unless a program was
loaded. -/
structure Stops (loaded : Prop) (ds : List Device) (f : Failure) : Prop where
  leavesOpen : f.leavesOpen = ds
  early : f.endsRun = false
  loaded : ds ≠ [] → loaded

/-- Where just the first devices were opened, an action opens those up to the last ones and yields what
is `good`, unless it fails; then the failure tells which were opened. -/
def Opens (loaded : Prop) {α : Type} (first : List Device) (a : Launch α) (last : List Device)
    (good : α → Prop) : Prop :=
  ∀ t, t.devices = first.map .opened →
    match a t with
    | .ok x t' => t'.devices = last.map .opened ∧ good x
    | .error f t' => ∃ ds, Stops loaded ds f ∧ t'.devices = ds.map .opened

section

variable {loaded : Prop} {α β : Type} {a : Launch α} {first next last : List Device}
  {good : α → Prop}

theorem Opens.weaken {good' : α → Prop} (h : Opens loaded first a last good)
    (better : ∀ x, good x → good' x) :
  Opens loaded first a last good'
  := by
  intro t opened
  have key := h t opened
  split at key
  · exact ⟨key.1, better _ key.2⟩
  · exact key

theorem Opens.bind {f : α → Launch β} {good' : β → Prop} (h : Opens loaded first a next good)
    (rest : ∀ x, good x → Opens loaded next (f x) last good') :
  Opens loaded first (a >>= f) last good'
  := by
  intro t opened
  have key := h t opened
  cases ended : a t with
  | ok x t' =>
      rw [ended] at key
      rw [bind_of_ok ended]
      apply rest x key.2 t' key.1
  | error e t' =>
      rw [ended] at key
      rw [bind_of_error ended]
      exact key

theorem opens_pure {x : α} (h : good x) :
  Opens loaded first (pure x) first good
  := fun _ opened => ⟨opened, h⟩

theorem Opens.map (h : Opens loaded first a last good) (f : α → β) :
  Opens loaded first (f <$> a) last fun y => ∃ x, good x ∧ f x = y
  := by
  show Opens loaded first (a >>= fun x => pure (f x)) last _
  apply h.bind
  intro x fine
  exact opens_pure ⟨x, fine, rfl⟩

theorem opens_throw {f : Failure} (h : Stops loaded first f) :
  Opens loaded first (throw f : Launch α) last good
  := fun _ opened => ⟨first, h, opened⟩

theorem opens_modify {f : Transcript → Transcript} (kept : ∀ t, (f t).devices = t.devices) :
  Opens loaded first (modify f) first fun _ => True
  := fun t opened => ⟨(kept t).trans opened, trivial⟩

theorem opens_say (line : String) :
  Opens loaded first (say line) first fun _ => True
  := opens_modify fun _ => rfl

theorem opens_record (notes : Array Note) :
  Opens loaded first (record notes) first fun _ => True
  := opens_modify fun _ => rfl

theorem opens_observe (d : Device) :
  Opens loaded first (observe (.opened d)) (first ++ [d]) fun _ => True
  := by
  intro t opened
  refine ⟨?_, trivial⟩
  show t.devices ++ [.opened d] = _
  rw [opened, List.map_append, List.map_singleton]

theorem opens_require {name : String} {setting : Option α}
    (h : Stops loaded first (.missingOption name)) :
  Opens loaded first (require name setting) first fun x => setting = some x
  := by
  cases setting with
  | none => exact opens_throw h
  | some x => exact opens_pure rfl

theorem opens_value? {name : String} {setting : Setting α}
    (h : Stops loaded first (.unusableOption name)) :
  Opens loaded first (value? name setting) first fun v => ∀ x, v = some x → setting = .given x
  := by
  cases setting with
  | usual => exact opens_pure nofun
  | given x => exact opens_pure fun _ same => congrArg Setting.given (Option.some.inj same)
  | blank => exact opens_throw h
  | odd => exact opens_throw h

theorem opens_valueOrBlank? {name : String} {setting : Setting α}
    (h : Stops loaded first (.unusableOption name)) :
  Opens loaded first (valueOrBlank? name setting) first fun _ => True
  := by
  cases setting with
  | odd => exact opens_throw h
  | _ => exact opens_pure trivial

theorem opens_value {name : String} {setting : Setting α}
    (h : Stops loaded first (.unusableOption name)) :
  Opens loaded first (value name setting) first fun x => setting = .given x
  := by
  rw [value]
  apply (opens_value? h).bind
  intro v given
  cases v with
  | none => exact opens_throw h
  | some x => exact opens_pure (given x rfl)

theorem opens_fromDevice {r : Except HostError α}
    (h : ∀ e, r = .error e → Stops loaded first (.device e)) :
  Opens loaded first (fromDevice r) first fun x => r = .ok x
  := by
  cases r with
  | ok x => exact opens_pure rfl
  | error e => exact opens_throw (h e rfl)

/-! ### The program -/

/-- Failures which come before the first device is opened. -/
theorem stops_nil {f : Failure} (none : f.leavesOpen = []) (early : f.endsRun = false) :
  Stops loaded [] f
  := ⟨none, early, fun some => absurd rfl some⟩

theorem opens_load (read : FileReader) (source : ProgramSource) :
  Opens loaded [] (load read source) [] fun rom =>
    ∃ name, source = .file name ∧ read name = .ok rom
  := by
  cases source with
  | file name =>
      rw [load, loadFile]
      cases file : read name with
      | ok rom =>
          apply (opens_record _).bind
          intro _ _
          exact opens_pure ⟨name, rfl, file⟩
      | error e =>
          cases e with
          | refused code reason => exact opens_throw (stops_nil rfl rfl)
          | badName => exact opens_throw (stops_nil rfl rfl)
  | channel number =>
      rw [load]
      split
      · exact opens_throw (stops_nil rfl rfl)
      · split <;> exact opens_throw (stops_nil rfl rfl)

theorem opens_boot (random : RandomSource) (rom : List UInt8) :
  Opens loaded [] (boot random rom) [] fun m =>
    rom.length ≤ Machine.programRoom ∧ m = (Machine.initial random).booted rom
  := by
  rw [boot]
  rcases Nat.lt_or_ge Machine.programRoom rom.length with long | short
  · rw [Machine.boot_eq_error _ long]
    exact opens_throw (stops_nil rfl rfl)
  · rw [Machine.boot_eq_ok _ short]
    exact opens_pure ⟨short, rfl⟩

theorem opens_rendererKind (name : String) :
  Opens loaded [] (rendererKind name) [] fun _ => True
  := by
  rw [rendererKind]
  split
  · exact opens_pure trivial
  · split
    · exact opens_pure trivial
    · exact opens_throw (stops_nil rfl rfl)

/-! ### The devices -/

theorem opens_openWindow (around : Surroundings) (scale : Setting Int) (palette : Setting String) :
  Opens loaded [] (openWindow around scale palette) [] fun _ => True
  := by
  have told : ∀ e ∈ [.colourCount, .colourLength, .badColour, .negativeColour],
      (Failure.device e).leavesOpen = [] := by decide
  rw [openWindow]
  apply (opens_value? (stops_nil rfl rfl)).bind
  intro text _
  apply (opens_fromDevice _).bind
  · intro p _
    apply (opens_value? (stops_nil rfl rfl)).bind
    intro width _
    apply (opens_fromDevice _).weaken fun _ _ => trivial
    intro e bad
    obtain ⟨reason, rfl⟩ := Window.ofPalette_error bad
    exact stops_nil rfl rfl
  · intro e bad
    exact stops_nil (told e (Palette.ofText_error bad)) rfl

/-- An open renderer gets the resolution of the machine, unless a window cannot store its bytes. -/
theorem opens_resized (program : loaded) (free : Storage) (r : Renderer) :
  Opens loaded [] (do
    observe (.opened .renderer)
    fromDevice (r.tryResize free Geometry.standard.width Geometry.standard.height)) [.renderer]
    fun _ => True
  := by
  apply (opens_observe .renderer).bind
  intro _ _
  apply (opens_fromDevice _).weaken fun _ _ => trivial
  intro e bad
  obtain ⟨excess, rfl⟩ := Renderer.tryResize_error bad
  exact ⟨rfl, rfl, fun _ => program⟩

theorem opens_openRenderer (program : loaded) (around : Surroundings) (kind : RendererKind)
    (scale : Setting Int) (palette : Setting String) :
  Opens loaded [] (openRenderer around kind scale palette) [.renderer] fun _ => True
  := by
  unfold openRenderer
  cases kind with
  | plain =>
      dsimp only
      apply (opens_pure rfl).bind
      rintro r rfl
      apply opens_resized program
  | window =>
      dsimp only
      apply ((opens_openWindow around scale palette).map Renderer.window).bind
      intro r _
      apply opens_resized program

theorem stops_keymap (program : loaded) :
  Stops loaded [.renderer] (.missingOption "keymap") ∧
    Stops loaded [.renderer] (.unusableOption "keymap")
  := ⟨⟨rfl, rfl, fun _ => program⟩, ⟨rfl, rfl, fun _ => program⟩⟩

theorem opens_openKeyboard (program : loaded) (kind : RendererKind) (keymap : String) :
  Opens loaded [.renderer] (openKeyboard kind keymap) [.renderer, .keyboard] fun _ => True
  := by
  have told : ∀ e ∈ [.keyCount, .keyNotInteger, .duplicateKey],
      (Failure.device e).leavesOpen = [.renderer] := by decide
  unfold openKeyboard
  apply (opens_fromDevice _).bind
  · intro m _
    apply (opens_observe .keyboard).bind
    intro _ _
    exact opens_pure trivial
  · intro e bad
    exact ⟨told e (Keymap.ofText_error bad), rfl, fun _ => program⟩

theorem opens_openBuzzer (program : loaded) (around : Surroundings) (kind : RendererKind)
    (mute : Bool) :
  Opens loaded [.renderer, .keyboard] (openBuzzer around kind mute) Device.all fun _ => True
  := by
  have last : ∀ buzzer : Buzzer, Opens loaded [.renderer, .keyboard] (do
      observe (.opened .buzzer)
      return buzzer) Device.all fun _ => True := by
    intro buzzer
    apply (opens_observe .buzzer).bind
    intro _ _
    exact opens_pure trivial
  rw [openBuzzer]
  dsimp only
  split
  · apply (opens_fromDevice _).bind
    · intro _ _
      apply last
    · intro e bad
      cases starts : around.mixer with
      | ok u =>
          rw [starts] at bad
          cases bad
      | error reason =>
          rw [starts] at bad
          cases bad
          exact ⟨rfl, rfl, fun _ => program⟩
  · apply last

theorem stops_rate (program : loaded) :
  Stops loaded Device.all (.missingOption "rate") ∧ Stops loaded Device.all (.unusableOption "rate")
  := ⟨⟨rfl, rfl, fun _ => program⟩, ⟨rfl, rfl, fun _ => program⟩⟩

end

/-! ### Up to the run -/

/-- A start opens all devices before its run, or its failure tells how far it came. -/
theorem opens_prepare (o : Options) (around : Surroundings) :
  Opens (Loads o around.read) [] (prepare o around) Device.all fun _ => Loads o around.read
  := by
  rw [prepare]
  apply (opens_say _).bind
  intro _ _
  apply (opens_require (stops_nil rfl rfl)).bind
  intro live _
  apply (opens_require (stops_nil rfl rfl)).bind
  intro name _
  apply (opens_require (stops_nil rfl rfl)).bind
  intro mute _
  apply (opens_rendererKind _).bind
  intro kind _
  apply (opens_require (stops_nil rfl rfl)).bind
  intro filename present
  apply (opens_value (stops_nil rfl rfl)).bind
  intro source given
  apply (opens_load around.read source).bind
  rintro rom ⟨file, rfl, found⟩
  apply (opens_require (stops_nil rfl rfl)).bind
  intro seed _
  apply (opens_value? (stops_nil rfl rfl)).bind
  intro number _
  apply (opens_boot _ rom).bind
  rintro machine ⟨short, -⟩
  have loads : Loads o around.read := ⟨file, rom, given ▸ present, found, short⟩
  apply (opens_require (stops_nil rfl rfl)).bind
  intro scale _
  apply (opens_require (stops_nil rfl rfl)).bind
  intro palette _
  apply (opens_openRenderer loads around kind scale palette).bind
  intro renderer _
  -- From here on a failure leaves open what was opened so far.
  apply (opens_require (stops_keymap loads).1).bind
  intro keymap _
  apply (opens_valueOrBlank? (stops_keymap loads).2).bind
  intro text _
  apply (opens_openKeyboard loads kind _).bind
  intro keyboard _
  apply (opens_openBuzzer loads around kind _).bind
  intro buzzer _
  apply (opens_require (stops_rate loads).1).bind
  intro rate _
  apply (opens_value? (stops_rate loads).2).bind
  intro ticks _
  dsimp only
  split
  · exact opens_pure loads
  · exact opens_throw ⟨rfl, rfl, fun _ => loads⟩

/-! ### Ends -/

/-- The devices are closed whatever the processor noted. -/
theorem closeDevices_eq (c : Processor) (t : Transcript) :
  ∃ t', closeDevices c t = .ok () t' ∧ t'.devices = t.devices ++ Device.all.reverse.map .closed
  := by
  refine ⟨_, rfl, ?_⟩
  simp [Device.all]

theorem courseOf_conclude (ending : Joint.Ending) (s : System) (t : Transcript) :
  courseOf (outcome (conclude ending s t)).1 = course
  := by cases ending <;> rfl

theorem outcome_conclude (ending : Joint.Ending) (s : System) (t : Transcript) :
  (outcome (conclude ending s t)).2.devices = t.devices ++ Device.all.reverse.map .closed
  := by
  obtain ⟨t', closed, devices⟩ := closeDevices_eq s.cpu t
  cases ending with
  | _ =>
      rw [conclude, bind_of_ok closed]
      exact devices

/-- The result of a start tells what happened to its devices, which is nothing unless there is a program
that fits. -/
theorem devices_of_ends {o : Options} {around : Surroundings}
    {result : Except Failure Unit × Transcript} (ended : Ends o around result) :
  result.2.devices = courseOf result.1 ∧ (result.2.devices ≠ [] → Loads o around.read)
  := by
  have key := opens_prepare o around .empty rfl
  cases ended with
  | unready failed =>
      rw [failed] at key
      obtain ⟨ds, stops, devices⟩ := key
      rw [courseOf, if_neg (Bool.eq_false_iff.mp stops.early), stops.leavesOpen]
      use devices
      intro some
      apply stops.loaded
      rintro rfl
      exact some devices
  | ran prepared ended =>
      rw [prepared] at key
      obtain ⟨opened, loads⟩ := key
      refine ⟨?_, fun _ => loads⟩
      rw [outcome_conclude, opened, courseOf_conclude]
      rfl

/-! ### What stays open -/

theorem closesRenderer_course :
  ClosesRenderer course
  := by
  intro _
  refine ⟨Device.all.map .opened ++ [.closed .buzzer, .closed .keyboard], [], rfl, ?_⟩
  intro d other _
  cases d with
  | renderer => exact absurd rfl other
  | keyboard | buzzer => decide

/-- Devices that were opened and no more are closed in no order, if there are any. -/
theorem closesRenderer_opened_iff {ds : List Device} :
  ClosesRenderer (ds.map .opened) ↔ .renderer ∉ ds
  := by
  constructor
  · intro closes opened
    obtain ⟨before, after, split, -⟩ := closes (List.mem_map_of_mem opened)
    have closed : DeviceEvent.closed .renderer ∈ ds.map .opened := by
      rw [split]
      exact List.mem_append_right before List.mem_cons_self
    obtain ⟨d, -, ⟨⟩⟩ := List.mem_map.mp closed
  · intro absent opened
    obtain ⟨d, member, same⟩ := List.mem_map.mp opened
    cases same
    exact absurd member absent

/-- What a failure leaves open includes the renderer, unless it is nothing. -/
theorem renderer_notMem_leavesOpen_iff {f : Failure} :
  .renderer ∉ f.leavesOpen ↔ f.leavesOpen = []
  := by
  have options : ∀ ds ∈ [[], [.renderer], [.renderer, .keyboard], Device.all],
      Device.renderer ∉ ds ↔ ds = [] := by decide
  apply options
  fun_cases Failure.leavesOpen f <;> decide

theorem leavesOpen_of_endsRun {f : Failure} (h : f.endsRun = true) :
  f.leavesOpen = []
  := by
  cases f with
  | broken | failed => rfl
  | _ => cases h

/-- Take any start that ends, with any options, whatever the files, the window system and the mixer
refuse, and whatever the schedule of its run. If there is no program that can be read and fits, then
nothing is opened. What happened to the devices is told by the result: all of them were opened and then
closed in the opposite order, or just those were opened which the failure leaves open, and nothing was
closed. So a renderer that was opened is closed after all other devices, except when the start fails for
its keymap or its rate, for the bytes of its window or for the mixer. -/
theorem renderer_closed_unless {o : Options} {around : Surroundings}
    {result : Except Failure Unit × Transcript} (ended : Ends o around result) :
  (¬Loads o around.read → result.2.devices = []) ∧
  result.2.devices = courseOf result.1 ∧
  (ClosesRenderer result.2.devices ↔ ∀ f, result.1 = .error f → f.leavesOpen = [])
  := by
  obtain ⟨devices, loads⟩ := devices_of_ends ended
  refine ⟨fun unloaded => not_not.mp (mt loads unloaded), devices, ?_⟩
  rw [devices]
  cases result.1 with
  | ok =>
      refine ⟨nofun, fun _ => closesRenderer_course⟩
  | error f =>
      have told : ClosesRenderer (courseOf (.error f)) ↔ f.leavesOpen = [] := by
        rw [courseOf]
        split
        · next late => exact iff_of_true closesRenderer_course (leavesOpen_of_endsRun late)
        · exact closesRenderer_opened_iff.trans renderer_notMem_leavesOpen_iff
      rw [told]
      constructor
      · rintro closed _ ⟨⟩
        exact closed
      · intro closed
        exact closed f rfl

/-- The options of a start with a window, where nothing but the keymap is given. -/
def windowOptions (keymap : String) : Options :=
  let settings := { Command.Settings.initial with keymap := .given keymap }
  Command.Arguments.options { filename := "lonely.ch8", settings := settings }

/-- A file with a program that returns without a call. -/
def lonelyFile : FileReader := fun _ => .ok [0x00, 0xee]

/-- Files of which none is there. -/
def noFile : FileReader := fun _ => .error (.refused 2 "No such file or directory")

/-- The devices are closed when the program halts, and none is opened if there is no program. -/
theorem renderer_closed_unless_halted :
  (∃ f t, Ends (windowOptions Keymap.defaultText) (.willing lonelyFile 0) (.error f, t) ∧
      f.endsRun = true ∧ t.devices = course ∧ ClosesRenderer t.devices) ∧
    ∃ result, Ends (windowOptions Keymap.defaultText) (.willing noFile 0) result ∧
      result.2.devices = []
  := by
  constructor
  · have halts : (run? (windowOptions Keymap.defaultText) (.willing lonelyFile 0) 3).any
        (fun result => match result.1 with
          | .ok _ => false
          | .error f => f.endsRun) = true := by decide +kernel
    obtain ⟨⟨result, t⟩, ran, late⟩ := (Option.any_eq_true _ _).mp halts
    cases result with
    | ok => cases late
    | error f =>
        have ended := ends_of_run? ran
        obtain ⟨-, devices, closes⟩ := renderer_closed_unless ended
        use f, t, ended, late
        constructor
        · rw [devices, courseOf, if_pos late]
        · apply closes.mpr
          rintro _ ⟨⟩
          exact leavesOpen_of_endsRun late
  · have ends : (run? (windowOptions Keymap.defaultText) (.willing noFile 0) 0).isSome = true := by
      decide +kernel
    obtain ⟨result, ran⟩ := Option.isSome_iff_exists.mp ends
    have ended := ends_of_run? ran
    use result, ended
    apply (renderer_closed_unless ended).1
    rintro ⟨name, rom, -, ⟨⟩, -⟩

/-- A start with a keymap of one key opens a window, and does not close it. -/
theorem renderer_left_open :
  ∃ t, Ends (windowOptions "1") (.willing lonelyFile 0) (.error (.device .keyCount), t) ∧
    t.devices = [.opened .renderer] ∧ ¬ClosesRenderer t.devices
  := by
  have fails : (run? (windowOptions "1") (.willing lonelyFile 0) 0).map
      (fun result => (result.1, result.2.devices)) =
      some (.error (.device .keyCount), [.opened .renderer]) := by decide +kernel
  obtain ⟨⟨result, t⟩, ran, same⟩ := Option.map_eq_some_iff.mp fails
  obtain ⟨rfl, devices⟩ := Prod.mk.inj same
  have shut : ¬ClosesRenderer ([Device.renderer].map .opened) :=
    fun closes => closesRenderer_opened_iff.mp closes List.mem_cons_self
  use t, ends_of_run? ran, devices
  rw [devices]
  exact shut

end Startup

end Chip8
