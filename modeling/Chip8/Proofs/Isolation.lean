import Chip8.Proofs.Peripherals

/-!
# Isolation of the instructions from the host

While a tick is on its way, the host may take frames from the display slot, put keys into the key
channel, ask for the buzzer and request a stop. No instruction sees any of this: an action of the
machine is isolated (`Action.Isolated`) if it neither reads nor changes the display slot and leaves
bits in the video memory, and all instructions are (`Action.isolated_execute`), whatever the machine
holds. So the parts of a tick do the same to two processors that differ only in what the host has a
hand in (`Processor.Isolated`).
-/

namespace Chip8

/-- A result with its state changed by a function. -/
def onState {ε σ τ α : Type} (f : σ → τ) : EStateM.Result ε σ α → EStateM.Result ε τ α
  | .ok a s => .ok a (f s)
  | .error e s => .error e (f s)

theorem left_onState {ε σ τ α : Type} (f : σ → τ) (r : EStateM.Result ε σ α) :
  left (onState f r) = f (left r)
  := by
  cases r with
  | ok a s => rfl
  | error e s => rfl

section

variable {ε σ τ α β : Type} {forget : σ → τ}

/-- An action overlooks what `forget` leaves out of the states if it ends alike in states that are
alike without it. -/
class Overlooks (forget : σ → τ) (a : EStateM ε σ α) : Prop where
  alike : ∀ {s t}, forget s = forget t → onState forget (a s) = onState forget (a t)

theorem Overlooks.of_ok {a : EStateM ε σ α} [h : Overlooks forget a] {s t t' : σ} {x : α}
    (same : forget s = forget t) (ended : a t = .ok x t') :
  ∃ s', a s = .ok x s' ∧ forget s' = forget t'
  := by
  have key := h.alike same
  rw [ended] at key
  cases started : a s with
  | ok y s' =>
      rw [started] at key
      injection key with value state
      rw [value]
      exact ⟨s', rfl, state⟩
  | error e s' =>
      rw [started] at key
      cases key

theorem Overlooks.of_error {a : EStateM ε σ α} [h : Overlooks forget a] {s t t' : σ} {e : ε}
    (same : forget s = forget t) (ended : a t = .error e t') :
  ∃ s', a s = .error e s' ∧ forget s' = forget t'
  := by
  have key := h.alike same
  rw [ended] at key
  cases started : a s with
  | ok y s' =>
      rw [started] at key
      cases key
  | error e' s' =>
      rw [started] at key
      injection key with value state
      rw [value]
      exact ⟨s', rfl, state⟩

instance overlooks_pure (x : α) : Overlooks forget (pure x : EStateM ε σ α) where
  alike same := congrArg (EStateM.Result.ok x) same

instance overlooks_bind {a : EStateM ε σ α} {f : α → EStateM ε σ β} [Overlooks forget a]
    [rest : ∀ x, Overlooks forget (f x)] :
    Overlooks forget (a >>= f) where
  alike {s t} same := by
    cases ended : a t with
    | ok x t' =>
        obtain ⟨s', ended', same'⟩ := Overlooks.of_ok same ended
        rw [bind_of_ok ended, bind_of_ok ended']
        apply (rest x).alike same'
    | error e t' =>
        obtain ⟨s', ended', same'⟩ := Overlooks.of_error same ended
        rw [bind_of_error ended, bind_of_error ended']
        exact congrArg (EStateM.Result.error e) same'

/-- What follows may depend on everything that is not left out. -/
theorem overlooks_get_bind {f : σ → EStateM ε σ α}
    (blind : ∀ {s t}, forget s = forget t → f s = f t) (rest : ∀ s, Overlooks forget (f s)) :
  Overlooks forget (get >>= f)
  where
  alike {s t} same := by
    rw [bind_of_ok (get_apply s), bind_of_ok (get_apply t), blind same]
    apply (rest t).alike same

/-- A modification overlooks what is left out if it carries over to the rest. -/
theorem overlooks_modify {f : σ → σ} (g : τ → τ) (carried : ∀ s, forget (f s) = g (forget s)) :
  Overlooks forget (modify f : EStateM ε σ Unit)
  where
  alike {s t} same := by
    rw [modify_apply, modify_apply]
    apply congrArg (EStateM.Result.ok ())
    rw [carried, same, carried]

end

section

variable {ε σ τ α β : Type} {view : σ → τ}

/-- What every part of an action keeps is kept by the action, be it successful or not. -/
theorem bind_keeps {P : σ → Prop} {a : EStateM ε σ α} {f : α → EStateM ε σ β}
    (first : ∀ s, P s → P (left (a s))) (rest : ∀ x s, P s → P (left (f x s))) {s : σ} (h : P s) :
  P (left ((a >>= f) s))
  := by
  have key := first s h
  cases ended : a s with
  | ok x t =>
      rw [ended] at key
      rw [bind_of_ok ended]
      apply rest x t key
  | error e t =>
      rw [ended] at key
      rw [bind_of_error ended]
      exact key

/-- An action keeps a part of the state if it leaves it as it was, be the action successful or
not. -/
class Keeps (view : σ → τ) (a : EStateM ε σ α) : Prop where
  kept : ∀ s, view (left (a s)) = view s

theorem Keeps.of_ok {a : EStateM ε σ α} [h : Keeps view a] {s s' : σ} {x : α}
    (ended : a s = .ok x s') :
  view s' = view s
  := by
  have key := h.kept s
  rw [ended] at key
  exact key

theorem Keeps.of_error {a : EStateM ε σ α} [h : Keeps view a] {s s' : σ} {e : ε}
    (ended : a s = .error e s') :
  view s' = view s
  := by
  have key := h.kept s
  rw [ended] at key
  exact key

instance keeps_pure (x : α) : Keeps view (pure x : EStateM ε σ α) where
  kept _ := rfl

instance keeps_bind {a : EStateM ε σ α} {f : α → EStateM ε σ β} [first : Keeps view a]
    [rest : ∀ x, Keeps view (f x)] :
    Keeps view (a >>= f) where
  kept s := by
    apply bind_keeps (P := fun t => view t = view s)
    · intro t same
      rw [first.kept, same]
    · intro x t same
      rw [(rest x).kept, same]
    · rfl

instance keeps_get_bind {f : σ → EStateM ε σ α} [rest : ∀ s, Keeps view (f s)] :
    Keeps view (get >>= f) where
  kept s := by
    rw [bind_of_ok (get_apply s)]
    apply (rest s).kept

instance keeps_ite {c : Prop} [Decidable c] {a b : EStateM ε σ α} [whenTrue : Keeps view a]
    [whenFalse : Keeps view b] :
    Keeps view (if c then a else b) := by
  split
  · exact whenTrue
  · exact whenFalse

theorem keeps_modify {f : σ → σ} (kept : ∀ s, view (f s) = view s) :
  Keeps view (modify f : EStateM ε σ Unit)
  where
  kept s := kept s

end

/-! ### The machine -/

/-- The machine with another display slot. -/
def Machine.withDisplay (m : Machine) (slot : Latest Frame) : Machine :=
  { m with screen := { m.screen with display := slot } }

namespace Action

/-- An action is isolated if it neither reads nor changes the display slot, and leaves bits in the
video memory. -/
class Isolated {α : Type} (a : Action α) : Prop where
  display : ∀ m slot, a (m.withDisplay slot) = onState (fun m => m.withDisplay slot) (a m)
  bits : ∀ m, m.screen.vram.IsBits → (left (a m)).screen.vram.IsBits

section

variable {α β : Type}

instance isolated_pure (x : α) :
    Isolated (pure x) where
  display _ _ := rfl
  bits _ h := h

instance isolated_bind {a : Action α} {f : α → Action β} [first : Isolated a]
    [rest : ∀ x, Isolated (f x)] :
    Isolated (a >>= f) where
  display m slot := by
    have key := first.display m slot
    cases ended : a m with
    | ok x m' =>
        rw [ended] at key
        rw [bind_of_ok ended, bind_of_ok key]
        apply (rest x).display
    | error e m' =>
        rw [ended] at key
        rw [bind_of_error ended, bind_of_error key]
        rfl
  bits _ := bind_keeps first.bits fun x => (rest x).bits

instance isolated_ite {c : Prop} [Decidable c] {a b : Action α} [whenTrue : Isolated a]
    [whenFalse : Isolated b] :
    Isolated (if c then a else b) := by
  split
  · exact whenTrue
  · exact whenFalse

/-- What follows may depend on every part of the machine but the display slot. -/
theorem isolated_get_bind {f : Machine → Action α}
    (blind : ∀ m slot, f (m.withDisplay slot) = f m) (rest : ∀ m, Isolated (f m)) :
  Isolated (get >>= f)
  where
  display m slot := by
    rw [bind_of_ok (get_apply m), bind_of_ok (get_apply (m.withDisplay slot)), blind]
    apply (rest m).display
  bits m h := by
    rw [bind_of_ok (get_apply m)]
    apply (rest m).bits m h

/-- A question is isolated if it is not about the display slot. -/
theorem isolated_ask {f : Machine → Except Fault α}
    (blind : ∀ m slot, f (m.withDisplay slot) = f m) :
  Isolated (ask f)
  where
  display m slot := by
    rw [ask, ask, blind]
    cases f m with
    | ok x => rfl
    | error e => rfl
  bits m h := by
    rw [ask]
    cases f m with
    | ok x => exact h
    | error e => exact h

/-- A modification is isolated if it does not depend on the display slot. -/
theorem isolated_modify {f : Machine → Machine}
    (carried : ∀ m slot, f (m.withDisplay slot) = (f m).withDisplay slot)
    (bits : ∀ m, m.screen.vram.IsBits → (f m).screen.vram.IsBits) :
  Isolated (modify f)
  where
  display m slot := by
    rw [modify_apply, modify_apply, carried]
    rfl
  bits m h := by
    rw [modify_apply]
    apply bits m h

/-- An exchange of a part other than the screen is isolated. -/
theorem isolated_exchange {part : Machine → Except Fault (α × β)} {store : Machine → β → Machine}
    (blind : ∀ m slot, part (m.withDisplay slot) = part m)
    (stored : ∀ m slot b, store (m.withDisplay slot) b = (store m b).withDisplay slot)
    (kept : ∀ m b, (store m b).screen = m.screen) :
  Isolated (exchange fun m => do
    let (x, b) ← part m
    return (x, store m b))
  where
  display m slot := by
    rw [exchange, exchange, blind]
    cases part m with
    | ok found => exact congrArg (EStateM.Result.ok found.1) (stored m slot found.2)
    | error e => rfl
  bits m h := by
    rw [exchange]
    cases part m with
    | ok found =>
        show (store m found.2).screen.vram.IsBits
        rw [kept]
        exact h
    | error e => exact h

/-- A change of a part other than the screen is isolated. -/
theorem isolated_change {part : Machine → Except Fault β} {store : Machine → β → Machine}
    (blind : ∀ m slot, part (m.withDisplay slot) = part m)
    (stored : ∀ m slot b, store (m.withDisplay slot) b = (store m b).withDisplay slot)
    (kept : ∀ m b, (store m b).screen = m.screen) :
  Isolated (change fun m => do return store m (← part m))
  where
  display m slot := by
    rw [change, change, blind]
    cases part m with
    | ok b => exact congrArg (EStateM.Result.ok ()) (stored m slot b)
    | error e => rfl
  bits m h := by
    rw [change]
    cases part m with
    | ok b =>
        show (store m b).screen.vram.IsBits
        rw [kept]
        exact h
    | error e => exact h

end

/-! ### Parts of the machine -/

instance isolated_register (x : Fin 16) : Isolated (register x) :=
  isolated_get_bind (fun _ _ => rfl) fun _ => inferInstance

instance isolated_programCounter : Isolated programCounter :=
  isolated_get_bind (fun _ _ => rfl) fun _ => inferInstance

instance isolated_index : Isolated index :=
  isolated_get_bind (fun _ _ => rfl) fun _ => inferInstance

instance isolated_setRegister (x : Fin 16) (value : Int) : Isolated (setRegister x value) :=
  isolated_change (fun _ _ => rfl) (fun _ _ _ => rfl) fun _ _ => rfl

instance isolated_setFlag (on : Bool) : Isolated (setFlag on) :=
  isolated_setRegister _ _

instance isolated_goto (address : Int) : Isolated (goto address) :=
  isolated_change (fun _ _ => rfl) (fun _ _ _ => rfl) fun _ _ => rfl

instance isolated_advance (bytes : Int) : Isolated (advance bytes) :=
  isolated_change (fun _ _ => rfl) (fun _ _ _ => rfl) fun _ _ => rfl

instance isolated_next : Isolated next := isolated_advance 2

instance isolated_skipIf (condition : Bool) : Isolated (skipIf condition) := isolated_advance _

instance isolated_setIndex (value : Int) : Isolated (setIndex value) :=
  isolated_change (fun _ _ => rfl) (fun _ _ _ => rfl) fun _ _ => rfl

instance isolated_addIndex (delta : Int) : Isolated (addIndex delta) :=
  isolated_change (fun _ _ => rfl) (fun _ _ _ => rfl) fun _ _ => rfl

instance isolated_byteAt (address : Int) : Isolated (byteAt address) :=
  isolated_ask fun _ _ => rfl

instance isolated_setByteAt (address value : Int) : Isolated (setByteAt address value) :=
  isolated_change (fun _ _ => rfl) (fun _ _ _ => rfl) fun _ _ => rfl

instance isolated_keyDown (key : Int) : Isolated (keyDown key) :=
  isolated_ask fun _ _ => rfl

instance isolated_setWithFlag (x : Fin 16) (result : Int) (on : Bool) :
    Isolated (setWithFlag x result on) :=
  isolated_bind

instance isolated_combine (f : Nat → Nat → Nat) (x y : Fin 16) : Isolated (combine f x y) := by
  unfold combine
  infer_instance

instance isolated_randomNumber : Isolated Machine.randomNumber where
  display _ _ := rfl
  bits _ h := h

/-! ### Sprites and rows of registers -/

/-- The slot does not matter when a pixel is switched. -/
theorem flip_withDisplay (m : Machine) (slot : Latest Frame) (x y : Int) :
  (m.withDisplay slot).screen.flip x y =
    (m.screen.flip x y).map fun found => (found.1, { found.2 with display := slot })
  := by
  rw [Screen.flip, Screen.flip]
  cases Screen.address .standard x y with
  | error e => rfl
  | ok location =>
      show (m.screen.vram.read location 1 >>= _) = Except.map _ (m.screen.vram.read location 1 >>= _)
      cases m.screen.vram.read location 1 with
      | error e => rfl
      | ok pixel =>
          show (m.screen.vram.write location (pixel ^^^ 1 : Nat) >>= _) =
            Except.map _ (m.screen.vram.write location (pixel ^^^ 1 : Nat) >>= _)
          cases m.screen.vram.write location (pixel ^^^ 1 : Nat) with
          | error e => rfl
          | ok vram => rfl

instance isolated_flipPixel (x y : Int) : Isolated (flipPixel x y) where
  display m slot := by
    rw [flipPixel, exchange, exchange, flip_withDisplay]
    cases m.screen.flip x y with
    | error e => rfl
    | ok found => rfl
  bits m h := by
    rw [flipPixel_eq_ok m h]
    exact h.toggle _

instance isolated_drawRow (x y byte : Nat) (columns : List Nat) :
    Isolated (drawRow x y byte columns) := by
  induction columns with
  | nil => exact isolated_pure false
  | cons column columns ih =>
      unfold drawRow
      infer_instance

instance isolated_drawRows (x y address : Nat) (rows : List Nat) :
    Isolated (drawRows x y address rows) := by
  induction rows with
  | nil => exact isolated_pure false
  | cons row rows ih =>
      unfold drawRows
      infer_instance

instance isolated_drawSprite (x y : Fin 16) (n : Nat) : Isolated (drawSprite x y n) := by
  have redraw : Isolated (modify fun m => { m with screen := m.screen.requestRedraw }) :=
    isolated_modify (fun _ _ => rfl) fun _ h => h
  unfold drawSprite
  infer_instance

instance isolated_storeRegisters (xs : List (Fin 16)) : Isolated (storeRegisters xs) := by
  induction xs with
  | nil => exact isolated_pure ()
  | cons x xs ih =>
      unfold storeRegisters
      infer_instance

instance isolated_loadRegisters (xs : List (Fin 16)) : Isolated (loadRegisters xs) := by
  induction xs with
  | nil => exact isolated_pure ()
  | cons x xs ih =>
      unfold loadRegisters
      infer_instance

/-! ### Instructions -/

/-- No instruction reads or changes the display slot, and all of them leave bits in the video
memory. -/
instance isolated_execute (i : Instruction) (op : Opcode) : Isolated (execute i op) := by
  unfold execute
  cases i with
  | clearScreen =>
      have cleared : Isolated (modify fun m : Machine =>
          { m with screen := m.screen.clear.requestRedraw }) := by
        apply isolated_modify (fun _ _ => rfl)
        intro m h k
        exact Nat.le_trans (Nat.le_of_eq (Memory.get_zeros k)) (Nat.zero_le 1)
      exact isolated_bind
  | ret =>
      have popped : Isolated (exchange fun m => do
          let (entry, stack) ← m.stack.pop
          return (entry, { m with stack := stack })) :=
        @isolated_exchange _ _ (fun m => m.stack.pop) (fun m stack => { m with stack := stack })
          (fun _ _ => rfl) (fun _ _ _ => rfl) fun _ _ => rfl
      exact isolated_bind
  | call =>
      have pushed : ∀ here : Nat, Isolated (change fun m => do
          return { m with stack := ← m.stack.push here }) := fun _ =>
        isolated_change (fun _ _ => rfl) (fun _ _ _ => rfl) fun _ _ => rfl
      exact isolated_bind
  | loadDelay => exact isolated_get_bind (fun _ _ => rfl) fun _ => isolated_bind
  | awaitKey =>
      apply isolated_get_bind
      · intro m slot
        rfl
      · intro m
        cases m.registers.pressedKey with
        | none => exact isolated_modify (fun _ _ => rfl) fun _ h => h
        | some key =>
            have ended : Isolated (modify fun m : Machine => { m with awaiting := none }) :=
              isolated_modify (fun _ _ => rfl) fun _ h => h
            exact isolated_bind
  | setDelay =>
      have changed : ∀ value : Nat, Isolated (change fun m => do
          return { m with delay := ← m.delay.write value }) := fun _ =>
        isolated_change (fun _ _ => rfl) (fun _ _ _ => rfl) fun _ _ => rfl
      exact isolated_bind
  | setSound =>
      have changed : ∀ value : Nat, Isolated (change fun m => do
          return { m with sound := ← m.sound.write value }) := fun _ =>
        isolated_change (fun _ _ => rfl) (fun _ _ _ => rfl) fun _ _ => rfl
      exact isolated_bind
  | _ => infer_instance

end Action

/-! ### The processor -/

/-- The timer after it was counted down, unless it stands at zero. -/
def Timer.lowered {name : String} (t : Timer name) : Except Fault (Timer name) :=
  if Timer.ticking t then Timer.countDown t else .ok t

namespace Processor

/-- What the processor has to itself: everything but the slots, which the host reads and writes as
well, the request to stop, and the journal, in which the host takes notes too. -/
def bare (c : Processor) : Processor :=
  { c with
    machine := c.machine.withDisplay .empty
    keyChannel := .empty
    buzzerChannel := ⟨c.buzzerChannel.playing, .empty⟩
    stopRequested := false
    journal := #[] }

/-- What the host tells the processor: the keys and whether to stop. -/
def told (c : Processor) : KeyChannel × Bool := (c.keyChannel, c.stopRequested)

/-- An action is isolated if it depends on nothing but what the processor has to itself, and leaves
what the host tells it. -/
class Isolated {α : Type} (a : ProcessorAction α) : Prop where
  bare : ∀ c, onState Processor.bare (a c.bare) = onState Processor.bare (a c)
  told : ∀ c, (left (a c)).told = c.told

section

variable {α β : Type}

/-- Processors that have the same to themselves do the same in an isolated action. -/
instance Isolated.overlooks {a : ProcessorAction α} [h : Isolated a] :
    Overlooks Processor.bare a where
  alike {c d} same := by rw [← h.bare c, same, h.bare d]

instance Isolated.keeps {a : ProcessorAction α} [h : Isolated a] : Keeps Processor.told a :=
  ⟨h.told⟩

theorem Isolated.of_ok {a : ProcessorAction α} [Isolated a] {c d d' : Processor} {x : α}
    (same : c.bare = d.bare) (ended : a d = .ok x d') :
  ∃ c', a c = .ok x c' ∧ c'.bare = d'.bare
  := Overlooks.of_ok same ended

theorem Isolated.of_error {a : ProcessorAction α} [Isolated a] {c d d' : Processor} {e : Fault}
    (same : c.bare = d.bare) (ended : a d = .error e d') :
  ∃ c', a c = .error e c' ∧ c'.bare = d'.bare
  := Overlooks.of_error same ended

instance isolated_pure (x : α) :
    Isolated (pure x) where
  bare _ := rfl
  told _ := rfl

instance isolated_bind {a : ProcessorAction α} {f : α → ProcessorAction β} [Isolated a]
    [∀ x, Isolated (f x)] :
    Isolated (a >>= f) where
  bare c := Overlooks.alike (a := a >>= f) (s := c.bare) (t := c) rfl
  told c := Keeps.kept (a := a >>= f) c

/-- What follows may depend on what the processor has to itself. -/
theorem isolated_get_bind {f : Processor → ProcessorAction α} (blind : ∀ c, f c.bare = f c)
    (rest : ∀ c, Isolated (f c)) :
  Isolated (get >>= f)
  where
  bare c := by
    rw [bind_of_ok (get_apply c), bind_of_ok (get_apply c.bare), blind]
    apply (rest c).bare
  told c := by
    rw [bind_of_ok (get_apply c)]
    apply (rest c).told

theorem isolated_modify {f : Processor → Processor} (blind : ∀ c, (f c.bare).bare = (f c).bare)
    (kept : ∀ c, (f c).told = c.told) :
  Isolated (modify f)
  where
  bare c := by
    rw [modify_apply, modify_apply]
    exact congrArg (EStateM.Result.ok ()) (blind c)
  told c := by
    rw [modify_apply]
    apply kept

instance isolated_onMachine {a : Action α} [machine : a.Isolated] : Isolated (onMachine a) where
  bare c := by
    have key := machine.display c.machine .empty
    cases ended : a c.machine with
    | ok x m =>
        rw [ended] at key
        rw [onMachine_of_ok ended, onMachine_of_ok (c := c.bare) key]
        rfl
    | error e m =>
        rw [ended] at key
        rw [onMachine_of_error ended, onMachine_of_error (c := c.bare) key]
        rfl
  told c := by
    rw [onMachine]
    cases a c.machine with
    | ok x m => rfl
    | error e m => rfl

end

/-! ### The parts of a tick -/

instance isolated_lookup (word : Nat) : Isolated (lookup word) where
  bare c := by
    rw [lookup, lookup]
    cases Instruction.table.lookup word with
    | ok e => rfl
    | error e => rfl
  told c := by
    rw [lookup]
    cases Instruction.table.lookup word with
    | ok e => rfl
    | error e => rfl

instance isolated_noteLive (word : Nat) (e : Entry Instruction) : Isolated (noteLive word e) := by
  apply isolated_modify
  · intro c
    show bare (if c.live then _ else _) = bare (if c.live then _ else _)
    cases c.live with
    | true => rfl
    | false => rfl
  · intro c
    split <;> rfl

instance isolated_step : Isolated step := by
  have fetched : Action.Isolated Machine.fetch := Action.isolated_ask fun _ _ => rfl
  have begun : Isolated (modify fun c =>
      { c with progress := ⟨c.machine.registers.pc.value, none, none⟩ }) :=
    isolated_modify (fun _ => rfl) fun _ => rfl
  have known : ∀ word, Isolated (modify fun c =>
      { c with progress := { c.progress with word := some word } }) := fun _ =>
    isolated_modify (fun _ => rfl) fun _ => rfl
  have found : ∀ e : Entry Instruction, Isolated (modify fun c =>
      { c with progress := { c.progress with instruction := some e.meaning } }) := fun _ =>
    isolated_modify (fun _ => rfl) fun _ => rfl
  unfold step
  infer_instance

theorem presented_bare (c : Processor) :
  c.bare.presented.bare = c.presented.bare
  := by
  rw [presented, presented]
  show bare (if c.machine.screen.redraw then _ else _) =
    bare (if c.machine.screen.redraw then _ else _)
  cases c.machine.screen.redraw with
  | true => rfl
  | false => rfl

instance isolated_present : Isolated present where
  bare c := by
    rw [present_eq, present_eq]
    exact congrArg (EStateM.Result.ok _) (presented_bare c)
  told c := by
    rw [present_eq, left, presented]
    split <;> rfl

/-- Counting down the delay timer is a change of this timer only. -/
theorem countDelay_eq_change :
  countDelay = onMachine (Action.change fun m => do return { m with delay := ← Timer.lowered m.delay })
  := by
  rw [countDelay]
  congr
  funext m
  show (if m.delay.ticking then _ else _) = (if m.delay.ticking then _ else _ : Except _ _) >>= _
  cases m.delay.ticking with
  | true => rfl
  | false => rfl

instance isolated_countDelay : Isolated countDelay := by
  have counted : Action.Isolated (Action.change fun m => do
      return { m with delay := ← Timer.lowered m.delay }) :=
    Action.isolated_change (fun _ _ => rfl) (fun _ _ _ => rfl) fun _ _ => rfl
  rw [countDelay_eq_change]
  infer_instance

theorem silence_bare (c : Processor) :
  c.silence.bare = { c.bare with buzzerChannel := ⟨false, .empty⟩ }
  := by
  rw [silence, bare, BuzzerChannel.playing_stop]
  rfl

instance isolated_serveBuzzer : Isolated serveBuzzer := by
  have counted : Action.Isolated (Action.change fun m => do
      return { m with sound := ← Timer.countDown m.sound }) :=
    Action.isolated_change (fun _ _ => rfl) (fun _ _ _ => rfl) fun _ _ => rfl
  have played : Isolated (modify fun c => { c with buzzerChannel := c.buzzerChannel.play }) := by
    have on : ∀ c : Processor, bare { c with buzzerChannel := c.buzzerChannel.play } =
        { c.bare with buzzerChannel := ⟨true, .empty⟩ } := by
      intro c
      rw [bare, BuzzerChannel.playing_play]
      rfl
    apply isolated_modify
    · intro c
      rw [on, on]
      rfl
    · intro c
      rfl
  have silenced : Isolated (modify silence) := by
    apply isolated_modify
    · intro c
      rw [silence_bare, silence_bare]
      rfl
    · intro c
      rfl
  apply isolated_get_bind
  · intro c
    rfl
  · intro c
    split
    · infer_instance
    · exact silenced

/-! ### The screen in a tick -/

theorem left_onMachine {α : Type} (a : Action α) (c : Processor) :
  left (onMachine a c) = { c with machine := left (a c.machine) }
  := by
  rw [onMachine]
  cases a c.machine with
  | ok x m => rfl
  | error e m => rfl

/-- A step changes the machine by an instruction, if at all. -/
theorem step_machine (c : Processor) :
  (left c.step).machine = c.machine ∨
    ∃ i op, (left c.step).machine = left (Action.execute i op c.machine)
  := by
  let begun := { c with progress := ⟨c.machine.registers.pc.value, none, none⟩ }
  rw [step, bind_of_ok (modify_apply _ c)]
  cases read : c.machine.ram.read c.machine.registers.pc.value 2 with
  | error e =>
      left
      have refused : onMachine Machine.fetch begun = .error e begun := by
        rw [onMachine, Machine.fetch, Action.ask, read]
      rw [bind_of_error refused]
      rfl
  | ok word =>
      have fetched : onMachine Machine.fetch begun = .ok word begun := by
        rw [onMachine, Machine.fetch, Action.ask, read]
      rw [bind_of_ok fetched, bind_of_ok (modify_apply _ _)]
      cases found : Instruction.table.lookup word with
      | error e =>
          left
          have unknown : ∀ d, lookup word d = .error e d := by
            intro d
            rw [lookup, found]
          rw [bind_of_error (unknown _)]
          rfl
      | ok e =>
          right
          have known : ∀ d, lookup word d = .ok e d := by
            intro d
            rw [lookup, found]
          use e.meaning, .ofWord word
          rw [bind_of_ok (known _), bind_of_ok (modify_apply _ _), noteLive,
            bind_of_ok (modify_apply _ _), left_onMachine]
          dsimp only
          cases c.live with
          | true => rfl
          | false => rfl

/-- A step leaves the display slot. -/
theorem step_display (c : Processor) :
  (left c.step).machine.screen.display = c.machine.screen.display
  := by
  rcases step_machine c with same | ⟨i, op, same⟩
  · rw [same]
  · have key := (Action.isolated_execute i op).display c.machine c.machine.screen.display
    have kept := congrArg (fun r => (left r).screen.display) key
    rw [left_onState] at kept
    rw [same]
    exact kept

/-- A step leaves bits in the video memory. -/
theorem step_bits {c : Processor} (h : c.machine.screen.vram.IsBits) :
  (left c.step).machine.screen.vram.IsBits
  := by
  rcases step_machine c with same | ⟨i, op, same⟩
  · rw [same]
    exact h
  · rw [same]
    apply (Action.isolated_execute i op).bits c.machine h

theorem countDelay_screen (c : Processor) :
  (left c.countDelay).machine.screen = c.machine.screen
  := by
  rw [countDelay, left_onMachine, Action.change]
  cases c.machine.delay.ticking with
  | false => rfl
  | true =>
      rw [if_pos rfl]
      cases Timer.countDown c.machine.delay with
      | ok t => rfl
      | error e => rfl

theorem serveBuzzer_screen (c : Processor) :
  (left c.serveBuzzer).machine.screen = c.machine.screen
  := by
  rw [serveBuzzer, bind_of_ok (get_apply c)]
  cases c.machine.sound.ticking with
  | false => rfl
  | true =>
      rw [if_pos rfl, bind_of_ok (modify_apply _ c), left_onMachine, Action.change]
      dsimp only
      cases Timer.countDown c.machine.sound with
      | ok t => rfl
      | error e => rfl

end Processor

end Chip8
