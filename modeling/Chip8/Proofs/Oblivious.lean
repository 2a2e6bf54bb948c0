import Chip8.Proofs.Cells
import Chip8.Proofs.Rebooting

/-!
# Oblivious actions

The sound timer, the buzzer, the display slot with the redraw that is scheduled, and the notes of a
live processor are there for those who watch the program. What is left of a machine without them is
its core (`Machine.core`), and an action is oblivious (`Action.Oblivious`) if the core it leaves
depends on the core only. All instructions are (`Action.oblivious_execute`), and so are the parts of
a tick (`Ticking.advance_core`), as long as the sound timer holds a number of eight bits: a larger
one could not be counted down.
-/

namespace Chip8

/-- Results that are alike up to a function are of one kind, and tell the same. -/
theorem onState_cases {ε σ τ α : Type} {f : σ → τ} {r r' : EStateM.Result ε σ α}
    (same : onState f r = onState f r') :
  (∃ x s s', r = .ok x s ∧ r' = .ok x s' ∧ f s = f s') ∨
    (∃ e s s', r = .error e s ∧ r' = .error e s' ∧ f s = f s')
  := by
  cases r with
  | ok x s =>
      cases r' with
      | ok x' s' =>
          injection same with value state
          exact .inl ⟨x, s, s', rfl, congrArg (EStateM.Result.ok · s') value.symm, state⟩
      | error e s' => cases same
  | error e s =>
      cases r' with
      | ok x s' => cases same
      | error e' s' =>
          injection same with value state
          exact .inr ⟨e, s, s', rfl, congrArg (EStateM.Result.error · s') value.symm, state⟩

/-! ### The machine -/

/-- The machine without what is there for those who watch it: the sound timer, the display slot, and
whether a redraw is scheduled. -/
def Machine.core (m : Machine) : Machine :=
  { m with screen := { m.screen with display := .empty, redraw := false }, sound := .zero }

/-- The sound timer holds a number of eight bits. -/
def Machine.SoundFits (m : Machine) : Prop := m.sound.value ≤ 0xff

namespace Action

/-- An action is oblivious if the core of the machine that it leaves depends on the core of the
machine only, and the sound timer still holds a number of eight bits afterwards. -/
class Oblivious {α : Type} (a : Action α) : Prop where
  core : ∀ m, onState Machine.core (a m.core) = onState Machine.core (a m)
  fits : ∀ m, m.SoundFits → (left (a m)).SoundFits

section

variable {α β : Type}

instance Oblivious.overlooks {a : Action α} [h : Oblivious a] : Overlooks Machine.core a where
  alike {m n} same := by rw [← h.core m, same, h.core n]

instance oblivious_pure (x : α) :
    Oblivious (pure x) where
  core _ := rfl
  fits _ h := h

instance oblivious_bind {a : Action α} {f : α → Action β} [first : Oblivious a]
    [rest : ∀ x, Oblivious (f x)] :
    Oblivious (a >>= f) where
  core m := Overlooks.alike (a := a >>= f) (s := m.core) (t := m) rfl
  fits _ := bind_keeps first.fits fun x => (rest x).fits

instance oblivious_ite {c : Prop} [Decidable c] {a b : Action α} [whenTrue : Oblivious a]
    [whenFalse : Oblivious b] :
    Oblivious (if c then a else b) := by
  split
  · exact whenTrue
  · exact whenFalse

/-- What follows may depend on the core of the machine. -/
theorem oblivious_get_bind {f : Machine → Action α} (blind : ∀ m, f m.core = f m)
    (rest : ∀ m, Oblivious (f m)) :
  Oblivious (get >>= f)
  where
  core m := by
    rw [bind_of_ok (get_apply m), bind_of_ok (get_apply m.core), blind]
    apply (rest m).core
  fits m h := by
    rw [bind_of_ok (get_apply m)]
    apply (rest m).fits m h

/-- A question is oblivious if it is about the core. -/
theorem oblivious_ask {f : Machine → Except Fault α} (blind : ∀ m, f m.core = f m) :
  Oblivious (ask f)
  where
  core m := by
    rw [ask, ask, blind]
    cases f m with
    | ok x => rfl
    | error e => rfl
  fits m h := by
    rw [ask]
    cases f m with
    | ok x => exact h
    | error e => exact h

/-- A modification is oblivious if it carries over to the core. -/
theorem oblivious_modify {f : Machine → Machine} (carried : ∀ m, (f m.core).core = (f m).core)
    (fits : ∀ m, m.SoundFits → (f m).SoundFits) :
  Oblivious (modify f)
  where
  core m := congrArg (EStateM.Result.ok ()) (carried m)
  fits := fits

/-- An exchange of a part that belongs to the core is oblivious. -/
theorem oblivious_exchange {part : Machine → Except Fault (α × β)} {store : Machine → β → Machine}
    (blind : ∀ m, part m.core = part m)
    (stored : ∀ m b, (store m.core b).core = (store m b).core)
    (fits : ∀ m b, m.SoundFits → (store m b).SoundFits) :
  Oblivious (exchange fun m => do
    let (x, b) ← part m
    return (x, store m b))
  where
  core m := by
    rw [exchange, exchange, blind]
    cases part m with
    | ok found => exact congrArg (EStateM.Result.ok found.1) (stored m found.2)
    | error e => rfl
  fits m h := by
    rw [exchange]
    cases part m with
    | ok found => exact fits m found.2 h
    | error e => exact h

/-- A change of a part is oblivious if it depends on the core only. -/
theorem oblivious_change {part : Machine → Except Fault β} {store : Machine → β → Machine}
    (blind : ∀ m, part m.core = part m)
    (stored : ∀ m b, (store m.core b).core = (store m b).core)
    (fits : ∀ m b, part m = .ok b → m.SoundFits → (store m b).SoundFits) :
  Oblivious (change fun m => do return store m (← part m))
  where
  core m := by
    rw [change, change, blind]
    cases part m with
    | ok b => exact congrArg (EStateM.Result.ok ()) (stored m b)
    | error e => rfl
  fits m h := by
    rw [change]
    cases found : part m with
    | ok b => exact fits m b found h
    | error e => exact h

end

/-! ### Parts of the machine -/

instance oblivious_register (x : Fin 16) : Oblivious (register x) :=
  oblivious_get_bind (fun _ => rfl) fun _ => inferInstance

instance oblivious_programCounter : Oblivious programCounter :=
  oblivious_get_bind (fun _ => rfl) fun _ => inferInstance

instance oblivious_index : Oblivious index :=
  oblivious_get_bind (fun _ => rfl) fun _ => inferInstance

instance oblivious_setRegister (x : Fin 16) (value : Int) : Oblivious (setRegister x value) :=
  oblivious_change (fun _ => rfl) (fun _ _ => rfl) fun _ _ _ h => h

instance oblivious_setFlag (on : Bool) : Oblivious (setFlag on) :=
  oblivious_setRegister _ _

instance oblivious_goto (address : Int) : Oblivious (goto address) :=
  oblivious_change (fun _ => rfl) (fun _ _ => rfl) fun _ _ _ h => h

instance oblivious_advance (bytes : Int) : Oblivious (advance bytes) :=
  oblivious_change (fun _ => rfl) (fun _ _ => rfl) fun _ _ _ h => h

instance oblivious_next : Oblivious next := oblivious_advance 2

instance oblivious_skipIf (condition : Bool) : Oblivious (skipIf condition) := oblivious_advance _

instance oblivious_setIndex (value : Int) : Oblivious (setIndex value) :=
  oblivious_change (fun _ => rfl) (fun _ _ => rfl) fun _ _ _ h => h

instance oblivious_addIndex (delta : Int) : Oblivious (addIndex delta) :=
  oblivious_change (fun _ => rfl) (fun _ _ => rfl) fun _ _ _ h => h

instance oblivious_byteAt (address : Int) : Oblivious (byteAt address) :=
  oblivious_ask fun _ => rfl

instance oblivious_setByteAt (address value : Int) : Oblivious (setByteAt address value) :=
  oblivious_change (fun _ => rfl) (fun _ _ => rfl) fun _ _ _ h => h

instance oblivious_keyDown (key : Int) : Oblivious (keyDown key) :=
  oblivious_ask fun _ => rfl

instance oblivious_setWithFlag (x : Fin 16) (result : Int) (on : Bool) :
    Oblivious (setWithFlag x result on) :=
  oblivious_bind

instance oblivious_combine (f : Nat → Nat → Nat) (x y : Fin 16) : Oblivious (combine f x y) := by
  unfold combine
  infer_instance

instance oblivious_randomNumber : Oblivious Machine.randomNumber where
  core _ := rfl
  fits _ h := h

/-- A number that was stored in a timer has eight bits. -/
theorem write_le {name : String} {t t' : Timer name} {value : Int}
    (written : t.write value = .ok t') :
  t'.value ≤ 0xff
  := by
  obtain ⟨inside, held⟩ := (Cell.ofValue_eq_ok_iff (by decide)).mp written
  have eight : twoPow (8 : Int).toNat = 256 := by decide
  omega

/-! ### Sprites and rows of registers -/

/-- What is there for those who watch does not matter when a pixel is switched. -/
theorem flip_core (m : Machine) (x y : Int) :
  m.core.screen.flip x y =
    (m.screen.flip x y).map fun found => (found.1, { m.core.screen with vram := found.2.vram })
  := by
  rw [Screen.flip, Screen.flip]
  cases Screen.address .standard x y with
  | error e => rfl
  | ok location =>
      show (m.screen.vram.read location 1 >>= _) = Except.map _ (m.screen.vram.read location 1 >>= _)
      cases m.screen.vram.read location 1 with
      | error e => rfl
      | ok pixel =>
          show (m.screen.vram.write location (pixel ^^^ 1 : Nat) >>= _) =
            Except.map _ (m.screen.vram.write location (pixel ^^^ 1 : Nat) >>= _)
          cases m.screen.vram.write location (pixel ^^^ 1 : Nat) with
          | error e => rfl
          | ok vram => rfl

instance oblivious_flipPixel (x y : Int) : Oblivious (flipPixel x y) where
  core m := by
    rw [flipPixel, exchange, exchange, flip_core]
    cases m.screen.flip x y with
    | ok found => rfl
    | error e => rfl
  fits m h := by
    rw [flipPixel, exchange]
    cases m.screen.flip x y with
    | ok found => exact h
    | error e => exact h

instance oblivious_drawRow (x y byte : Nat) (columns : List Nat) :
    Oblivious (drawRow x y byte columns) := by
  induction columns with
  | nil => exact oblivious_pure false
  | cons column columns ih =>
      unfold drawRow
      infer_instance

instance oblivious_drawRows (x y address : Nat) (rows : List Nat) :
    Oblivious (drawRows x y address rows) := by
  induction rows with
  | nil => exact oblivious_pure false
  | cons row rows ih =>
      unfold drawRows
      infer_instance

instance oblivious_drawSprite (x y : Fin 16) (n : Nat) : Oblivious (drawSprite x y n) := by
  have redraw : Oblivious (modify fun m => { m with screen := m.screen.requestRedraw }) :=
    oblivious_modify (fun _ => rfl) fun _ h => h
  unfold drawSprite
  infer_instance

instance oblivious_storeRegisters (xs : List (Fin 16)) : Oblivious (storeRegisters xs) := by
  induction xs with
  | nil => exact oblivious_pure ()
  | cons x xs ih =>
      unfold storeRegisters
      infer_instance

instance oblivious_loadRegisters (xs : List (Fin 16)) : Oblivious (loadRegisters xs) := by
  induction xs with
  | nil => exact oblivious_pure ()
  | cons x xs ih =>
      unfold loadRegisters
      infer_instance

/-! ### Instructions -/

/-- No instruction looks at what is there for those who watch. -/
instance oblivious_execute (i : Instruction) (op : Opcode) : Oblivious (execute i op) := by
  unfold execute
  cases i with
  | clearScreen =>
      have cleared : Oblivious (modify fun m : Machine =>
          { m with screen := m.screen.clear.requestRedraw }) :=
        oblivious_modify (fun _ => rfl) fun _ h => h
      exact oblivious_bind
  | ret =>
      have popped : Oblivious (exchange fun m => do
          let (entry, stack) ← m.stack.pop
          return (entry, { m with stack := stack })) :=
        @oblivious_exchange _ _ (fun m => m.stack.pop) (fun m stack => { m with stack := stack })
          (fun _ => rfl) (fun _ _ => rfl) fun _ _ h => h
      exact oblivious_bind
  | call =>
      have pushed : ∀ here : Nat, Oblivious (change fun m => do
          return { m with stack := ← m.stack.push here }) := fun _ =>
        oblivious_change (fun _ => rfl) (fun _ _ => rfl) fun _ _ _ h => h
      exact oblivious_bind
  | loadDelay => exact oblivious_get_bind (fun _ => rfl) fun _ => oblivious_bind
  | awaitKey =>
      apply oblivious_get_bind
      · intro m
        rfl
      · intro m
        cases m.registers.pressedKey with
        | none => exact oblivious_modify (fun _ => rfl) fun _ h => h
        | some key =>
            have ended : Oblivious (modify fun m : Machine => { m with awaiting := none }) :=
              oblivious_modify (fun _ => rfl) fun _ h => h
            exact oblivious_bind
  | setDelay =>
      have changed : ∀ value : Nat, Oblivious (change fun m => do
          return { m with delay := ← m.delay.write value }) := fun _ =>
        oblivious_change (fun _ => rfl) (fun _ _ => rfl) fun _ _ _ h => h
      exact oblivious_bind
  | setSound =>
      have changed : ∀ value : Nat, Oblivious (change fun m => do
          return { m with sound := ← m.sound.write value }) := fun _ =>
        oblivious_change (fun _ => rfl) (fun _ _ => rfl) fun _ _ written _ => write_le written
      exact oblivious_bind
  | _ => infer_instance

end Action

/-! ### The processor -/

namespace Processor

/-- The processor without what is there for those who watch it, the count of its ticks, and what
plays a part between ticks only. What remains is the core of its machine, the keys that wait, and
the progress. -/
def core (c : Processor) : Processor :=
  { c with
    machine := c.machine.core
    buzzerChannel := .initial
    live := false
    interval := none
    clock := .instant
    stopRequested := false
    ticks := 0
    journal := #[] }

/-- An action is oblivious if the core that it leaves depends on the core only, provided that the
sound timer holds a number of eight bits, as it still does afterwards. -/
class Oblivious {α : Type} (a : ProcessorAction α) : Prop where
  core : ∀ c, c.machine.SoundFits → onState Processor.core (a c.core) = onState Processor.core (a c)
  fits : ∀ c, c.machine.SoundFits → (left (a c)).machine.SoundFits

section

variable {α β : Type}

theorem core_core (c : Processor) :
  c.core.core = c.core
  := rfl

theorem soundFits_core (c : Processor) :
  c.core.machine.SoundFits
  := Nat.zero_le _

instance oblivious_bind {a : ProcessorAction α} {f : α → ProcessorAction β} [first : Oblivious a]
    [rest : ∀ x, Oblivious (f x)] :
    Oblivious (a >>= f) where
  core c h := by
    have fits := first.fits c h
    have fits' := first.fits c.core c.soundFits_core
    rcases onState_cases (first.core c h) with
      ⟨x, d', d, ended', ended, same⟩ | ⟨e, d', d, ended', ended, same⟩
    · rw [ended] at fits
      rw [ended'] at fits'
      rw [bind_of_ok ended, bind_of_ok ended', ← (rest x).core d fits, ← same]
      exact ((rest x).core d' fits').symm
    · rw [bind_of_error ended, bind_of_error ended']
      exact congrArg (EStateM.Result.error e) same
  fits _ := bind_keeps first.fits fun x => (rest x).fits

theorem oblivious_modify {f : Processor → Processor} (carried : ∀ c, (f c.core).core = (f c).core)
    (fits : ∀ c, c.machine.SoundFits → (f c).machine.SoundFits) :
  Oblivious (modify f)
  where
  core c _ := congrArg (EStateM.Result.ok ()) (carried c)
  fits := fits

/-- An action is silent if it succeeds and leaves the core as it was; what it tells may depend on
everything. -/
class Silent (a : ProcessorAction α) : Prop where
  silent : ∀ c, c.machine.SoundFits →
    ∃ x d, a c = .ok x d ∧ d.core = c.core ∧ d.machine.SoundFits

instance oblivious_discard {a : ProcessorAction α} {f : ProcessorAction β} [first : Silent a]
    [rest : Oblivious f] :
    Oblivious (a >>= fun _ => f) where
  core c h := by
    obtain ⟨x, d, ended, same, fits⟩ := first.silent c h
    obtain ⟨x', d', ended', same', fits'⟩ := first.silent c.core c.soundFits_core
    rw [bind_of_ok ended, bind_of_ok ended', ← rest.core d fits, ← rest.core d' fits', same, same',
      core_core]
  fits c h := by
    obtain ⟨x, d, ended, -, fits⟩ := first.silent c h
    rw [bind_of_ok ended]
    apply rest.fits d fits

instance oblivious_onMachine {a : Action α} [machine : a.Oblivious] : Oblivious (onMachine a) where
  core c _ := by
    rcases onState_cases (machine.core c.machine) with
      ⟨x, m', m, ended', ended, same⟩ | ⟨e, m', m, ended', ended, same⟩
    · rw [onMachine_of_ok ended, onMachine_of_ok (c := c.core) ended']
      exact congrArg (fun m => EStateM.Result.ok x { c.core with machine := m }) same
    · rw [onMachine_of_error ended, onMachine_of_error (c := c.core) ended']
      exact congrArg (fun m => EStateM.Result.error e { c.core with machine := m }) same
  fits c h := by
    rw [left_onMachine]
    apply machine.fits c.machine h

end

/-! ### The parts of a tick -/

instance oblivious_lookup (word : Nat) : Oblivious (lookup word) where
  core c _ := by
    rw [lookup, lookup]
    cases Instruction.table.lookup word with
    | ok e => rfl
    | error e => rfl
  fits c h := by
    rw [lookup]
    cases Instruction.table.lookup word with
    | ok e => exact h
    | error e => exact h

instance oblivious_noteLive (word : Nat) (e : Entry Instruction) : Oblivious (noteLive word e) := by
  apply oblivious_modify
  · intro c
    show c.core.core = core (if c.live then _ else c)
    split <;> rfl
  · intro c h
    split <;> exact h

instance oblivious_step : Oblivious step := by
  have fetched : Action.Oblivious Machine.fetch := Action.oblivious_ask fun _ => rfl
  have begun : Oblivious (modify fun c =>
      { c with progress := ⟨c.machine.registers.pc.value, none, none⟩ }) :=
    oblivious_modify (fun _ => rfl) fun _ h => h
  have known : ∀ word, Oblivious (modify fun c =>
      { c with progress := { c.progress with word := some word } }) := fun _ =>
    oblivious_modify (fun _ => rfl) fun _ h => h
  have found : ∀ e : Entry Instruction, Oblivious (modify fun c =>
      { c with progress := { c.progress with instruction := some e.meaning } }) := fun _ =>
    oblivious_modify (fun _ => rfl) fun _ h => h
  unfold step
  infer_instance

instance silent_present : Silent present where
  silent c h := by
    use c.machine.screen.redraw, c.presented, c.present_eq
    rw [presented]
    split
    · exact ⟨rfl, h⟩
    · exact ⟨rfl, h⟩

instance oblivious_countDelay : Oblivious countDelay := by
  have counted : Action.Oblivious (Action.change fun m => do
      return { m with delay := ← Timer.lowered m.delay }) :=
    Action.oblivious_change (fun _ => rfl) (fun _ _ => rfl) fun _ _ _ h => h
  rw [countDelay_eq_change]
  infer_instance

instance silent_serveBuzzer : Silent serveBuzzer where
  silent c h := by
    use (), c.buzzed, serveBuzzer_eq h
    rw [buzzed]
    split
    · exact ⟨rfl, Nat.le_trans (Nat.sub_le _ _) h⟩
    · exact ⟨rfl, h⟩

instance oblivious_finishTick : Oblivious finishTick := by
  apply oblivious_modify
  · intro c
    rw [readKeys_eq, readKeys_eq]
    rfl
  · intro c h
    rw [readKeys_eq]
    exact h

end Processor

/-! ### Ticks in parts -/

namespace Ticking

open Processor

instance oblivious_remaining (stage : TickStage) : Oblivious (remaining stage) := by
  have served : Oblivious (serveBuzzer >>= fun _ => finishTick) := oblivious_discard
  have presents : Oblivious (present >>= fun _ =>
      countDelay >>= fun _ => serveBuzzer >>= fun _ => finishTick) := oblivious_discard
  cases stage with
  | execute => exact oblivious_bind (a := step)
  | present => exact presents
  | countDelay => exact oblivious_bind
  | serveBuzzer => exact served
  | takeKeys => exact oblivious_finishTick
  | storeKeys writes => exact oblivious_modify (fun _ => rfl) fun _ h => h

/-- The tick of a processor of which only the core is there. -/
def core (t : Ticking) : Ticking := { t with cpu := t.cpu.core }

theorem perform_oblivious {α : Type} {t : Ticking} (a : ProcessorAction α) [blind : Oblivious a]
    (fits : t.cpu.machine.SoundFits) (next : TickStage) :
  (t.core.perform a next).core = (t.perform a next).core ∧
    (t.perform a next).cpu.machine.SoundFits
  := by
  constructor
  · rcases onState_cases (blind.core t.cpu fits) with
      ⟨x, d', d, ended', ended, same⟩ | ⟨e, d', d, ended', ended, same⟩
    · rw [perform_of_ok ended, perform_of_ok (t := t.core) ended']
      exact congrArg (fun cpu => Ticking.mk cpu next) same
    · rw [perform_of_error ended, perform_of_error (t := t.core) ended']
      exact congrArg (fun cpu => Ticking.mk cpu .execute) same
  · rw [perform_cpu]
    apply blind.fits t.cpu fits

theorem perform_silent {α : Type} {t : Ticking} (a : ProcessorAction α) [quiet : Silent a]
    (fits : t.cpu.machine.SoundFits) (next : TickStage) :
  (t.core.perform a next).core = (t.perform a next).core ∧
    (t.perform a next).cpu.machine.SoundFits
  := by
  obtain ⟨x, d, ended, same, fits⟩ := quiet.silent t.cpu fits
  obtain ⟨x', d', ended', same', -⟩ := quiet.silent t.core.cpu t.cpu.soundFits_core
  rw [perform_of_ok ended, perform_of_ok ended', core, core, same, same']
  exact ⟨rfl, fits⟩

/-- The core that a part of a tick leaves depends on the core only. -/
theorem advance_core {t : Ticking} (fits : t.cpu.machine.SoundFits) :
  t.core.advance.core = t.advance.core ∧ t.advance.cpu.machine.SoundFits
  := by
  obtain ⟨cpu, stage⟩ := t
  cases stage with
  | execute => exact perform_oblivious step fits .present
  | present => exact perform_silent Processor.present fits .countDelay
  | countDelay => exact perform_oblivious Processor.countDelay fits .serveBuzzer
  | serveBuzzer => exact perform_silent Processor.serveBuzzer fits .takeKeys
  | takeKeys => exact ⟨rfl, fits⟩
  | storeKeys writes =>
      cases writes with
      | nil => exact ⟨rfl, fits⟩
      | cons w writes =>
          show core (advance ⟨cpu.core, .storeKeys (w :: writes)⟩) = _ ∧ _
          rw [advance_storeKeys, advance_storeKeys]
          exact ⟨rfl, fits⟩

end Ticking

end Chip8
