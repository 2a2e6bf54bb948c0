import Chip8.Proofs.Isolation

/-!
# Instructions leave the keys

No instruction changes the registers of the keys, whatever the machine holds and whether or not the
instruction is carried out (`Action.keeps_execute`). So between two readings of the key channel the
program sees the same keys.
-/

namespace Chip8

/-- The registers of the keys. -/
def Machine.keys (m : Machine) : KeySnapshot := m.registers.keys

/-! ### Registers -/

namespace Registers

variable {r r' : Registers}

/-- A register file that was changed in one part has the same keys. -/
theorem keys_of_bind {α : Type} {part : Except Fault α} {store : α → Registers}
    (stored : (part >>= fun a => return store a) = .ok r') (kept : ∀ a, (store a).keys = r.keys) :
  r'.keys = r.keys
  := by
  cases part with
  | ok a =>
      cases stored
      apply kept
  | error e => cases stored

theorem keys_set {x : Fin 16} {value : Int} (stored : r.set x value = .ok r') :
  r'.keys = r.keys
  := keys_of_bind stored fun _ => rfl

theorem keys_writePc {value : Int} (stored : r.writePc value = .ok r') :
  r'.keys = r.keys
  := keys_of_bind stored fun _ => rfl

theorem keys_addPc {delta : Int} (stored : r.addPc delta = .ok r') :
  r'.keys = r.keys
  := keys_of_bind stored fun _ => rfl

theorem keys_writeI {value : Int} (stored : r.writeI value = .ok r') :
  r'.keys = r.keys
  := keys_of_bind stored fun _ => rfl

theorem keys_addI {delta : Int} (stored : r.addI delta = .ok r') :
  r'.keys = r.keys
  := keys_of_bind stored fun _ => rfl

end Registers

/-! ### Kinds of actions -/

namespace Action

section

variable {α β τ : Type} {view : Machine → τ}

instance keeps_ask (f : Machine → Except Fault α) : Keeps view (ask f) where
  kept m := by
    rw [ask]
    cases f m with
    | ok x => rfl
    | error e => rfl

theorem keeps_exchange {part : Machine → Except Fault (α × β)} {store : Machine → β → Machine}
    (kept : ∀ m b, view (store m b) = view m) :
  Keeps view (exchange fun m => do
    let (x, b) ← part m
    return (x, store m b))
  where
  kept m := by
    rw [exchange]
    cases part m with
    | ok found => exact kept m found.2
    | error e => rfl

theorem keeps_change {part : Machine → Except Fault β} {store : Machine → β → Machine}
    (kept : ∀ m b, part m = .ok b → view (store m b) = view m) :
  Keeps view (change fun m => do return store m (← part m))
  where
  kept m := by
    rw [change]
    cases found : part m with
    | ok b => exact kept m b found
    | error e => rfl

end

/-! ### Parts of the machine -/

instance keeps_register (x : Fin 16) : Keeps Machine.keys (register x) := by
  unfold register
  infer_instance

instance keeps_programCounter : Keeps Machine.keys programCounter := by
  unfold programCounter
  infer_instance

instance keeps_index : Keeps Machine.keys index := by
  unfold index
  infer_instance

instance keeps_setRegister (x : Fin 16) (value : Int) : Keeps Machine.keys (setRegister x value) :=
  keeps_change fun _ _ => Registers.keys_set

instance keeps_goto (address : Int) : Keeps Machine.keys (goto address) :=
  keeps_change fun _ _ => Registers.keys_writePc

instance keeps_advance (bytes : Int) : Keeps Machine.keys (advance bytes) :=
  keeps_change fun _ _ => Registers.keys_addPc

instance keeps_setIndex (value : Int) : Keeps Machine.keys (setIndex value) :=
  keeps_change fun _ _ => Registers.keys_writeI

instance keeps_addIndex (delta : Int) : Keeps Machine.keys (addIndex delta) :=
  keeps_change fun _ _ => Registers.keys_addI

instance keeps_setByteAt (address value : Int) : Keeps Machine.keys (setByteAt address value) :=
  keeps_change fun _ _ _ => rfl

instance keeps_flipPixel (x y : Int) : Keeps Machine.keys (flipPixel x y) :=
  @keeps_exchange _ _ _ _ (fun m => m.screen.flip x y) (fun m screen => { m with screen := screen })
    fun _ _ => rfl

instance keeps_randomNumber : Keeps Machine.keys Machine.randomNumber where
  kept _ := rfl

/-! ### Sprites and rows of registers -/

instance keeps_drawRow (x y byte : Nat) (columns : List Nat) :
    Keeps Machine.keys (drawRow x y byte columns) := by
  induction columns with
  | nil => exact keeps_pure false
  | cons column columns ih =>
      unfold drawRow
      infer_instance

instance keeps_drawRows (x y address : Nat) (rows : List Nat) :
    Keeps Machine.keys (drawRows x y address rows) := by
  induction rows with
  | nil => exact keeps_pure false
  | cons row rows ih =>
      unfold drawRows byteAt
      infer_instance

instance keeps_drawSprite (x y : Fin 16) (n : Nat) : Keeps Machine.keys (drawSprite x y n) := by
  have redraw : Keeps Machine.keys (modify fun m =>
      { m with screen := m.screen.requestRedraw } : Action Unit) := keeps_modify fun _ => rfl
  unfold drawSprite setFlag
  infer_instance

instance keeps_storeRegisters (xs : List (Fin 16)) : Keeps Machine.keys (storeRegisters xs) := by
  induction xs with
  | nil => exact keeps_pure ()
  | cons x xs ih =>
      unfold storeRegisters
      infer_instance

instance keeps_loadRegisters (xs : List (Fin 16)) : Keeps Machine.keys (loadRegisters xs) := by
  induction xs with
  | nil => exact keeps_pure ()
  | cons x xs ih =>
      unfold loadRegisters byteAt
      infer_instance

/-! ### Instructions -/

/-- No instruction changes the keys. -/
instance keeps_execute (i : Instruction) (op : Opcode) : Keeps Machine.keys (execute i op) := by
  unfold execute combine skipIf next setWithFlag setFlag keyDown
  cases i with
  | clearScreen =>
      have cleared : Keeps Machine.keys (modify fun m : Machine =>
          { m with screen := m.screen.clear.requestRedraw } : Action Unit) :=
        keeps_modify fun _ => rfl
      infer_instance
  | ret =>
      have popped : Keeps Machine.keys (exchange fun m => do
          let (entry, stack) ← m.stack.pop
          return (entry, { m with stack := stack })) :=
        @keeps_exchange _ _ _ _ (fun m => m.stack.pop) (fun m stack => { m with stack := stack })
          fun _ _ => rfl
      infer_instance
  | call =>
      have pushed : ∀ here : Nat, Keeps Machine.keys (change fun m => do
          return { m with stack := ← m.stack.push here }) := fun _ =>
        keeps_change fun _ _ _ => rfl
      infer_instance
  | awaitKey =>
      have noted : ∀ x : Option (Fin 16), Keeps Machine.keys
          (modify fun m => { m with awaiting := x } : Action Unit) := fun _ =>
        keeps_modify fun _ => rfl
      refine @keeps_get_bind _ _ _ _ _ _ ?_
      intro m
      cases m.registers.pressedKey with
      | none => exact noted _
      | some key => exact keeps_bind
  | setDelay =>
      have changed : ∀ value : Nat, Keeps Machine.keys (change fun m => do
          return { m with delay := ← m.delay.write value }) := fun _ =>
        keeps_change fun _ _ _ => rfl
      infer_instance
  | setSound =>
      have changed : ∀ value : Nat, Keeps Machine.keys (change fun m => do
          return { m with sound := ← m.sound.write value }) := fun _ =>
        keeps_change fun _ _ _ => rfl
      infer_instance
  | _ => infer_instance

end Action

end Chip8
