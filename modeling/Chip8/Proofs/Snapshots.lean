import Chip8.Proofs.Devices
import Chip8.Proofs.Runs
import Chip8.Proofs.Waiting

/-!
# Delivery of key snapshots

The host may publish the keys at any moment, also between the parts of a tick and while the machine
stores a snapshot key by key. So a tick is taken apart (`Ticking`): it executes an instruction,
publishes the display, counts down the timers, serves the buzzer, takes the newest snapshot, and
stores its keys one after the other. Snapshots are published between any two of these parts.

What carries the proof is the bank of keys that is due (`Ticking.due`): the one that the key
registers hold once the snapshot that was taken is stored. It changes only when a snapshot is
taken, and then it becomes the latest one that was published (`Ticking.due_along`).
-/

namespace Chip8

/-! ### Snapshots -/

theorem KeySnapshot.size_states {states : List Bool} (h : states.length = 16) :
  states.toArray.size = 16
  := List.size_toArray.trans h

/-- The snapshot of a list of states, which must be sixteen. -/
def KeySnapshot.ofList? (states : List Bool) : Option KeySnapshot :=
  if h : states.length = 16 then some ⟨states.toArray, size_states h⟩ else none

/-- The states of the keys while none of them is held down. -/
def KeySnapshot.up : KeySnapshot := Vector.replicate 16 false

namespace KeySnapshot

/-- The keys after some of them are stored one after the other. -/
def storing (keys : KeySnapshot) (writes : List (Fin 16 × Bool)) : KeySnapshot :=
  writes.foldl (fun keys w => keys.set w.1.val w.2 w.1.isLt) keys

/-- The states of a snapshot, each with its key, in the order of the keys. -/
def writes (keys : KeySnapshot) : List (Fin 16 × Bool) :=
  (List.finRange 16).map fun k => (k, keys.get k)

theorem get_set (old : KeySnapshot) (k' : Fin 16) (state : Bool) (k : Fin 16) :
  (old.set k'.val state k'.isLt).get k = if k'.val = k.val then state else old.get k
  := Vector.getElem_set k'.isLt k.isLt

theorem get_storing (old keys : KeySnapshot) (ks : List (Fin 16)) (k : Fin 16)
    (h : k ∈ ks ∨ old.get k = keys.get k) :
  (old.storing (ks.map fun k => (k, keys.get k))).get k = keys.get k
  := by
  induction ks generalizing old with
  | nil => exact h.resolve_left List.not_mem_nil
  | cons k' ks ih =>
      apply ih (old.set k'.val (keys.get k') k'.isLt)
      rw [get_set]
      by_cases same : k'.val = k.val
      · rw [if_pos same, Fin.ext same]
        exact .inr rfl
      · rw [if_neg same]
        exact h.imp_left fun member => List.mem_of_ne_of_mem (fun e => same (e ▸ rfl)) member

/-- Storing all keys of a snapshot leaves nothing of the keys before it. -/
theorem storing_writes (old keys : KeySnapshot) :
  old.storing keys.writes = keys
  := by
  apply Vector.ext
  intro k inside
  exact get_storing old keys (List.finRange 16) ⟨k, inside⟩ (.inl (List.mem_finRange _))

end KeySnapshot

namespace Processor

/-! ### Publishing -/

/-- Sixteen states are put into the slot, and any other number is refused. -/
theorem publish_eq (c : Processor) (states : List Bool) :
  c.publish states =
    match KeySnapshot.ofList? states with
    | some keys => .ok () { c with keyChannel := c.keyChannel.deliver keys }
    | none => .error .partialSnapshot c
  := by
  have key : c.keyChannel.publish states =
      match KeySnapshot.ofList? states with
      | some keys => .ok (c.keyChannel.deliver keys)
      | none => .error .partialSnapshot := by
    rw [KeyChannel.publish, KeySnapshot.ofList?]
    split <;> rfl
  rw [publish, key]
  cases KeySnapshot.ofList? states with
  | some keys => rfl
  | none => rfl

/-! ### Reading the keys -/

/-- The snapshot that waits for the machine. -/
def waiting? (c : Processor) : Option KeySnapshot := c.keyChannel.slot.pending?

/-- The processor with other keys. -/
def withKeys (c : Processor) (keys : KeySnapshot) : Processor :=
  { c with machine := { c.machine with registers := { c.machine.registers with keys := keys } } }

/-- The processor after the newest snapshot was taken from the slot. -/
def taken (c : Processor) : Processor :=
  { c with keyChannel := ⟨c.keyChannel.slot.take.2⟩ }

theorem readKeys_eq (c : Processor) :
  c.readKeys = c.taken.withKeys (c.waiting?.getD c.machine.keys)
  := by
  rcases took : c.keyChannel.slot.take with ⟨newest, slot⟩
  rw [readKeys, KeyChannel.update, waiting?, Latest.pending?, taken, took]
  cases newest with
  | none => rfl
  | some keys => rfl

/-- Stores the state of one key. -/
def storeKey (k : Fin 16) (down : Bool) : ProcessorAction Unit :=
  onMachine (Action.change fun m => do
    return { m with registers := ← m.registers.setKey k.val down })

theorem storeKey_eq (c : Processor) (k : Fin 16) (down : Bool) :
  storeKey k down c = .ok () (c.withKeys (c.machine.keys.set k.val down k.isLt))
  := by
  have inside : 0 ≤ (k.val : Int) ∧ (k.val : Int) < 16 := by omega
  rw [storeKey, onMachine, Action.change, Registers.setKey, Registers.index, dif_pos inside]
  rfl

end Processor

/-! ### Ticks in parts -/

/-- What a processor does next in a tick. -/
inductive TickStage where
  /-- It executes an instruction. -/
  | execute
  /-- It publishes the display. -/
  | present
  /-- It counts down the delay timer. -/
  | countDelay
  /-- It counts down the sound timer, or switches the buzzer off. -/
  | serveBuzzer
  /-- It takes the newest snapshot of the keys. -/
  | takeKeys
  /-- It stores the states of keys that it took; after the last one the tick is complete. -/
  | storeKeys (writes : List (Fin 16 × Bool))
deriving DecidableEq

/-- A processor that makes ticks part by part. -/
structure Ticking where
  cpu : Processor
  stage : TickStage

/-- What happens while ticks are made. -/
inductive TickEvent where
  /-- The processor makes the next part of its tick. -/
  | part
  /-- The host publishes the states of the keys. -/
  | publish (states : List Bool)
deriving DecidableEq

/-- The keys that a stage has still to store. -/
def TickStage.rest : TickStage → List (Fin 16 × Bool)
  | .storeKeys writes => writes
  | _ => []

/-- The snapshot that is put into the slot. -/
def TickEvent.snapshot? : TickEvent → Option KeySnapshot
  | .part => none
  | .publish states => KeySnapshot.ofList? states

/-- The latest snapshot that was put into the slot. -/
def latest? (es : List TickEvent) : Option KeySnapshot :=
  (es.filterMap TickEvent.snapshot?).getLast?

theorem latest?_concat (es : List TickEvent) (e : TickEvent) :
  latest? (es ++ [e]) = e.snapshot?.or (latest? es)
  := by
  rw [latest?, List.filterMap_append, List.getLast?_append]
  cases put : e.snapshot? with
  | none => rw [List.filterMap_cons_none put]; rfl
  | some keys => rw [List.filterMap_cons_some put]; rfl

namespace Ticking

/-- The processor does a part of its tick, which ends if the part fails. -/
def perform {α : Type} (t : Ticking) (a : ProcessorAction α) (next : TickStage) : Ticking :=
  match a t.cpu with
  | .ok _ cpu => ⟨cpu, next⟩
  | .error _ cpu => ⟨cpu, .execute⟩

theorem perform_of_ok {α : Type} {t : Ticking} {a : ProcessorAction α} {x : α} {cpu : Processor}
    (ended : a t.cpu = .ok x cpu) (next : TickStage) :
  t.perform a next = ⟨cpu, next⟩
  := by rw [perform, ended]

theorem perform_of_error {α : Type} {t : Ticking} {a : ProcessorAction α} {e : Fault}
    {cpu : Processor} (ended : a t.cpu = .error e cpu) (next : TickStage) :
  t.perform a next = ⟨cpu, .execute⟩
  := by rw [perform, ended]

theorem perform_cpu {α : Type} (t : Ticking) (a : ProcessorAction α) (next : TickStage) :
  (t.perform a next).cpu = left (a t.cpu)
  := by
  rw [perform]
  cases a t.cpu with
  | ok x cpu => rfl
  | error e cpu => rfl

theorem perform_stage {α : Type} (t : Ticking) (a : ProcessorAction α) (next : TickStage) :
  (t.perform a next).stage = next ∨ (t.perform a next).stage = .execute
  := by
  rw [perform]
  cases a t.cpu with
  | ok x cpu => exact .inl rfl
  | error e cpu => exact .inr rfl

/-- The next part of a tick. -/
def advance (t : Ticking) : Ticking :=
  match t.stage with
  | .execute => t.perform Processor.step .present
  | .present => t.perform Processor.present .countDelay
  | .countDelay => t.perform Processor.countDelay .serveBuzzer
  | .serveBuzzer => t.perform Processor.serveBuzzer .takeKeys
  | .takeKeys =>
      ⟨t.cpu.taken, .storeKeys (t.cpu.waiting?.elim [] KeySnapshot.writes)⟩
  | .storeKeys ((k, down) :: writes) => t.perform (Processor.storeKey k down) (.storeKeys writes)
  | .storeKeys [] => ⟨{ t.cpu with ticks := t.cpu.ticks + 1 }, .execute⟩

theorem advance_storeKeys (cpu : Processor) (w : Fin 16 × Bool) (writes : List (Fin 16 × Bool)) :
  advance ⟨cpu, .storeKeys (w :: writes)⟩ =
    ⟨cpu.withKeys (cpu.machine.keys.set w.1.val w.2 w.1.isLt), .storeKeys writes⟩
  := by
  apply perform_of_ok
  apply Processor.storeKey_eq

/-- After the last key the tick is complete. -/
theorem advance_complete {t : Ticking} (last : t.stage = .storeKeys []) :
  t.advance = ⟨{ t.cpu with ticks := t.cpu.ticks + 1 }, .execute⟩
  := by rw [advance, last]

/-- The processor after something happened. -/
def happen (t : Ticking) : TickEvent → Ticking
  | .part => t.advance
  | .publish states => { t with cpu := left (t.cpu.publish states) }

/-- The processor after events, the first one first. -/
def along (t : Ticking) (es : List TickEvent) : Ticking := es.foldl happen t

theorem along_concat (t : Ticking) (es : List TickEvent) (e : TickEvent) :
  t.along (es ++ [e]) = (t.along es).happen e
  := List.foldl_concat happen t e es

theorem along_part (t : Ticking) (before since : List TickEvent) :
  t.along (before ++ .part :: since) = (t.along (before ++ [.part])).along since
  := by
  rw [along_concat]
  exact List.foldl_append

/-! ### The keys that are due -/

/-- The keys that are held down once those that were taken are stored. -/
def due (t : Ticking) : KeySnapshot := t.cpu.machine.keys.storing t.stage.rest

/-- The keys that are due once the next snapshot is taken. -/
def coming (t : Ticking) : KeySnapshot := t.cpu.waiting?.getD t.due

theorem rest_perform {α : Type} (t : Ticking) (a : ProcessorAction α) {next : TickStage}
    (plain : next.rest = []) :
  (t.perform a next).stage.rest = []
  := by
  rcases t.perform_stage a next with goesOn | ends
  · rw [goesOn, plain]
  · rw [ends]
    rfl

/-- A part that keeps the keys, and after which none are to be stored, leaves what is due. -/
theorem due_perform {α : Type} {t : Ticking} (a : ProcessorAction α)
    [kept : Keeps Processor.tally a] {next : TickStage} (plain : t.stage.rest = [])
    (plain' : next.rest = []) :
  (t.perform a next).due = t.due
  := by
  have same : (left (a t.cpu)).machine.keys = t.cpu.machine.keys :=
    congrArg (fun t => t.2.1) (kept.kept t.cpu)
  rw [due, due, plain, rest_perform t a plain', perform_cpu, same]

/-- An isolated part leaves the snapshot that waits. -/
theorem waiting?_perform {α : Type} (t : Ticking) (a : ProcessorAction α)
    [isolated : Processor.Isolated a] (next : TickStage) :
  (t.perform a next).cpu.waiting? = t.cpu.waiting?
  := by
  have same : (left (a t.cpu)).keyChannel = t.cpu.keyChannel :=
    congrArg Prod.fst (isolated.told t.cpu)
  rw [perform_cpu, Processor.waiting?, same, Processor.waiting?]

/-- The parts of a tick leave what is due and what waits, until a snapshot is taken. -/
theorem advance_due {t : Ticking} (other : t.stage ≠ .takeKeys) :
  t.advance.due = t.due ∧ t.advance.cpu.waiting? = t.cpu.waiting?
  := by
  obtain ⟨cpu, stage⟩ := t
  cases stage with
  | execute => exact ⟨due_perform _ rfl rfl, waiting?_perform _ _ _⟩
  | present => exact ⟨due_perform _ rfl rfl, waiting?_perform _ _ _⟩
  | countDelay => exact ⟨due_perform _ rfl rfl, waiting?_perform _ _ _⟩
  | serveBuzzer => exact ⟨due_perform _ rfl rfl, waiting?_perform _ _ _⟩
  | takeKeys => exact absurd rfl other
  | storeKeys writes =>
      cases writes with
      | nil => exact ⟨rfl, rfl⟩
      | cons w writes =>
          rw [advance_storeKeys]
          exact ⟨rfl, rfl⟩

/-- When a snapshot is taken, it becomes due. -/
theorem advance_takeKeys {t : Ticking} (takes : t.stage = .takeKeys) :
  t.advance.due = t.coming ∧ t.advance.cpu.waiting? = none
  := by
  obtain ⟨cpu, stage⟩ := t
  obtain rfl : stage = .takeKeys := takes
  constructor
  · show cpu.machine.keys.storing (cpu.waiting?.elim [] KeySnapshot.writes) =
      cpu.waiting?.getD cpu.machine.keys
    cases cpu.waiting? with
    | none => rfl
    | some keys => apply KeySnapshot.storing_writes
  · apply Latest.pending?_take

/-- Whatever happens, the keys that are coming are replaced by a snapshot that is published, and by
nothing else. -/
theorem coming_happen (t : Ticking) (e : TickEvent) :
  (t.happen e).coming = e.snapshot?.getD t.coming
  := by
  cases e with
  | publish states =>
      show coming { t with cpu := left (t.cpu.publish states) } = _
      rw [Processor.publish_eq, TickEvent.snapshot?]
      cases KeySnapshot.ofList? states with
      | some keys => rfl
      | none => rfl
  | part =>
      show t.advance.coming = t.coming
      by_cases takes : t.stage = .takeKeys
      · obtain ⟨due, empty⟩ := advance_takeKeys takes
        rw [coming, due, empty]
        rfl
      · obtain ⟨due, same⟩ := advance_due takes
        rw [coming, due, same]
        rfl

theorem coming_along (t : Ticking) (es : List TickEvent) :
  (t.along es).coming = (latest? es).getD t.coming
  := by
  induction es using List.reverseRecOn with
  | nil => rfl
  | append_singleton es e ih =>
      rw [along_concat, coming_happen, ih, latest?_concat]
      cases e.snapshot? with
      | none => rfl
      | some keys => rfl

/-- No snapshot is taken in the course of the events. -/
def TakesNone (t : Ticking) (es : List TickEvent) : Prop :=
  ∀ before, before ++ [.part] <+: es → (t.along before).stage ≠ .takeKeys

theorem TakesNone.earlier {t : Ticking} {es : List TickEvent} {e : TickEvent}
    (h : t.TakesNone (es ++ [e])) :
  t.TakesNone es
  := by
  intro before begins
  apply h before (begins.trans (List.prefix_append es [e]))

/-- What is due changes only when a snapshot is taken. -/
theorem due_along {t : Ticking} {es : List TickEvent} (none : t.TakesNone es) :
  (t.along es).due = t.due
  := by
  induction es using List.reverseRecOn with
  | nil => rfl
  | append_singleton es e ih =>
      rw [along_concat]
      cases e with
      | part => exact (advance_due (none es (List.prefix_refl _))).1.trans (ih none.earlier)
      | publish states =>
          apply Eq.trans _ (ih none.earlier)
          show due { t.along es with cpu := left ((t.along es).cpu.publish states) } = _
          rw [Processor.publish_eq]
          cases KeySnapshot.ofList? states with
          | some keys => rfl
          | none => rfl

/-- As long as no snapshot is taken, there are no keys to be stored. -/
theorem rest_advance {t : Ticking} (other : t.stage ≠ .takeKeys) (plain : t.stage.rest = []) :
  t.advance.stage.rest = []
  := by
  obtain ⟨cpu, stage⟩ := t
  cases stage with
  | execute | present | countDelay | serveBuzzer => apply rest_perform _ _ rfl
  | takeKeys => exact absurd rfl other
  | storeKeys writes =>
      obtain rfl : writes = [] := plain
      rfl

theorem rest_along {t : Ticking} {es : List TickEvent} (none : t.TakesNone es)
    (plain : t.stage.rest = []) :
  (t.along es).stage.rest = []
  := by
  induction es using List.reverseRecOn with
  | nil => exact plain
  | append_singleton es e ih =>
      rw [along_concat]
      cases e with
      | part => exact rest_advance (none es (List.prefix_refl _)) (ih none.earlier)
      | publish states => exact ih none.earlier

/-- Once everything is stored, the program sees the keys that are due. -/
theorem keys_of_rest {t : Ticking} (plain : t.stage.rest = []) :
  t.cpu.machine.keys = t.due
  := by
  rw [due, plain]
  rfl

/-- From an update on, the program sees the latest snapshot that was published before it. -/
theorem keys_along {t : Ticking} {before since : List TickEvent}
    (takes : (t.along before).stage = .takeKeys)
    (none : (t.along (before ++ [.part])).TakesNone since)
    (stored : (t.along (before ++ .part :: since)).stage.rest = []) :
  (t.along (before ++ .part :: since)).cpu.machine.keys = (latest? before).getD t.coming
  := by
  rw [keys_of_rest stored, along_part, due_along none, along_concat]
  apply Eq.trans (advance_takeKeys takes).1
  apply coming_along

/-! ### The update of a tick -/

/-- The processor stores keys that it took, or is about to complete the tick. -/
def Storing (t : Ticking) : Prop := ∃ writes, t.stage = .storeKeys writes

theorem not_storing_perform {α : Type} (t : Ticking) (a : ProcessorAction α) {next : TickStage}
    (plain : ∀ writes, next ≠ .storeKeys writes) :
  ¬(t.perform a next).Storing
  := by
  rintro ⟨writes, stage⟩
  rcases t.perform_stage a next with goesOn | ends
  · exact plain writes (goesOn.symm.trans stage)
  · cases ends.symm.trans stage

/-- Keys are stored only after they were taken. -/
theorem storing_of_advance {t : Ticking} (storing : t.advance.Storing) :
  t.stage = .takeKeys ∨ t.Storing
  := by
  obtain ⟨cpu, stage⟩ := t
  cases stage with
  | execute | present | countDelay | serveBuzzer =>
      exact absurd storing (not_storing_perform _ _ (by rintro writes ⟨⟩))
  | takeKeys => exact .inl rfl
  | storeKeys writes => exact .inr ⟨writes, rfl⟩

/-- The last of the events after `before` took a snapshot, and its keys are stored since then. -/
structure UpdateBegan (t : Ticking) (before since : List TickEvent) : Prop where
  takes : (t.along before).stage = .takeKeys
  stores : ∀ mid, mid <+: since → (t.along (before ++ .part :: mid)).Storing

/-- While keys are stored, there was the moment when they were taken. -/
theorem exists_updateBegan {t : Ticking} (begins : t.stage = .execute) {es : List TickEvent}
    (storing : (t.along es).Storing) :
  ∃ before since, es = before ++ .part :: since ∧ t.UpdateBegan before since
  := by
  induction es using List.reverseRecOn with
  | nil =>
      obtain ⟨writes, stage⟩ := storing
      cases begins.symm.trans stage
  | append_singleton es e ih =>
      have goesOn : (t.along es).Storing → ∃ before since, es ++ [e] = before ++ .part :: since ∧
          t.UpdateBegan before since := by
        intro earlier
        obtain ⟨before, since, rfl, takes, stores⟩ := ih earlier
        use before, since ++ [e], List.append_assoc _ _ _, takes
        intro mid inside
        rcases List.prefix_concat_iff.mp inside with rfl | inside
        · rw [← List.cons_append, ← List.append_assoc]
          exact storing
        · apply stores mid inside
      rw [along_concat] at storing
      cases e with
      | publish states => exact goesOn storing
      | part =>
          rcases storing_of_advance storing with takes | earlier
          · use es, [], rfl, takes
            intro mid inside
            obtain rfl := List.prefix_nil.mp inside
            rw [along_concat]
            exact storing
          · exact goesOn earlier

theorem UpdateBegan.takesNone {t : Ticking} {before since : List TickEvent}
    (h : t.UpdateBegan before since) :
  (t.along (before ++ [.part])).TakesNone since
  := by
  intro mid begins takes
  obtain ⟨writes, stores⟩ := h.stores mid ((List.prefix_append mid [.part]).trans begins)
  rw [along_part, takes] at stores
  cases stores

/-! ### Ticks without interference -/

/-- What a tick does from a stage on. -/
def remaining : TickStage → ProcessorAction Unit
  | .execute => Processor.tick
  | .present => do
      let _ ← Processor.present
      Processor.countDelay
      Processor.serveBuzzer
      Processor.finishTick
  | .countDelay => do
      Processor.countDelay
      Processor.serveBuzzer
      Processor.finishTick
  | .serveBuzzer => do
      Processor.serveBuzzer
      Processor.finishTick
  | .takeKeys => Processor.finishTick
  | .storeKeys writes =>
      modify fun c => { c.withKeys (c.machine.keys.storing writes) with ticks := c.ticks + 1 }

/-- The tick `t` goes on as `t'` does, or `t'` is the end of it. -/
def GoesOnAs (t t' : Ticking) : Prop :=
  if t'.stage = .execute then left (remaining t.stage t.cpu) = t'.cpu
  else left (remaining t.stage t.cpu) = left (remaining t'.stage t'.cpu)

theorem goesOnAs_perform {α : Type} {t : Ticking} {a : ProcessorAction α} {next : TickStage}
    (inside : next ≠ .execute) (same : remaining t.stage = a >>= fun _ => remaining next) :
  t.GoesOnAs (t.perform a next)
  := by
  rw [GoesOnAs, same]
  cases ended : a t.cpu with
  | ok x cpu =>
      rw [perform_of_ok ended, bind_of_ok ended]
      dsimp only
      rw [if_neg inside]
  | error e cpu =>
      rw [perform_of_error ended, bind_of_error ended]
      rfl

/-- A part of a tick leaves the rest of it. -/
theorem goesOnAs_advance (t : Ticking) :
  t.GoesOnAs t.advance
  := by
  obtain ⟨cpu, stage⟩ := t
  cases stage with
  | execute => exact goesOnAs_perform (by rintro ⟨⟩) rfl
  | present => exact goesOnAs_perform (by rintro ⟨⟩) rfl
  | countDelay => exact goesOnAs_perform (by rintro ⟨⟩) rfl
  | serveBuzzer => exact goesOnAs_perform (by rintro ⟨⟩) rfl
  | takeKeys =>
      have due := (advance_takeKeys (t := ⟨cpu, .takeKeys⟩) rfl).1
      show { cpu.readKeys with ticks := cpu.ticks + 1 } =
        { cpu.taken.withKeys (advance ⟨cpu, .takeKeys⟩).due with ticks := cpu.ticks + 1 }
      rw [due, cpu.readKeys_eq]
      rfl
  | storeKeys writes =>
      cases writes with
      | nil => rfl
      | cons w writes =>
          rw [advance_storeKeys]
          rfl

/-- The most parts that a tick makes from a stage on. -/
def partsLeft : TickStage → Nat
  | .execute => 22
  | .present => 21
  | .countDelay => 20
  | .serveBuzzer => 19
  | .takeKeys => 18
  | .storeKeys writes => writes.length + 1

theorem partsLeft_perform {α : Type} {t : Ticking} {a : ProcessorAction α} {next : TickStage}
    (fewer : partsLeft next < partsLeft t.stage) (inside : (t.perform a next).stage ≠ .execute) :
  partsLeft (t.perform a next).stage < partsLeft t.stage
  := by
  rcases t.perform_stage a next with goesOn | ends
  · rw [goesOn]
    exact fewer
  · exact absurd ends inside

theorem partsLeft_advance {t : Ticking} (inside : t.advance.stage ≠ .execute) :
  partsLeft t.advance.stage < partsLeft t.stage
  := by
  obtain ⟨cpu, stage⟩ := t
  cases stage with
  | execute => exact partsLeft_perform (Nat.lt_succ_self _) inside
  | present => exact partsLeft_perform (Nat.lt_succ_self _) inside
  | countDelay => exact partsLeft_perform (Nat.lt_succ_self _) inside
  | serveBuzzer => exact partsLeft_perform (Nat.lt_succ_self _) inside
  | takeKeys =>
      show (cpu.waiting?.elim [] KeySnapshot.writes).length + 1 < 18
      cases cpu.waiting? with
      | none => decide
      | some keys =>
          show keys.writes.length + 1 < 18
          rw [KeySnapshot.writes, List.length_map, List.length_finRange]
          decide
  | storeKeys writes =>
      cases writes with
      | nil => exact absurd rfl inside
      | cons w writes =>
          rw [advance_storeKeys]
          exact Nat.lt_succ_self _

/-- The parts that a processor makes one after the other, without a snapshot in between. -/
def parts (n : Nat) : List TickEvent := List.replicate n .part

/-- The next `n` parts are the rest of a tick. -/
structure CompletesIn (t : Ticking) (n : Nat) : Prop where
  some : 0 < n
  left : t.along (parts n) = ⟨left (remaining t.stage t.cpu), .execute⟩
  inside : ∀ k, 0 < k → k < n → (t.along (parts k)).stage ≠ .execute

/-- Without interference, the parts of a tick make the tick. -/
theorem completesIn (t : Ticking) :
  ∃ n, t.CompletesIn n
  := by
  induction parts : partsLeft t.stage using Nat.strong_induction_on generalizing t with
  | _ size ih =>
      have goesOn := t.goesOnAs_advance
      rw [GoesOnAs] at goesOn
      by_cases last : t.advance.stage = .execute
      · rw [if_pos last] at goesOn
        use 1, Nat.one_pos
        · rw [goesOn, ← last]
          rfl
        · intro k positive less
          omega
      · rw [if_neg last] at goesOn
        have fewer := partsLeft_advance last
        rw [parts] at fewer
        obtain ⟨n, some, left, inside⟩ := ih _ fewer t.advance rfl
        use n + 1, Nat.succ_pos n
        · rw [goesOn]
          exact left
        · intro k positive less
          obtain ⟨k, rfl⟩ := Nat.exists_eq_succ_of_ne_zero (Nat.ne_of_gt positive)
          cases k with
          | zero => exact last
          | succ k => exact inside (k + 1) (Nat.succ_pos k) (Nat.lt_of_succ_lt_succ less)

/-- The processor after its machine was booted, before its first tick. -/
def booted (c : Processor) (rom : List UInt8) : Ticking := ⟨c.booted rom, .execute⟩

/-- No key is held down after booting. -/
theorem keys_booted (c : Processor) (rom : List UInt8) :
  (c.booted rom).machine.keys = .up ∧ (c.booted rom).keyChannel = c.keyChannel
  := by
  have key : Keeps Machine.keys (Action.change fun m => do
      return { m with ram := ← m.ram.writeBytes programStart (rom.map (·.toNat)) }) :=
    Action.keeps_change fun _ _ _ => rfl
  rw [Processor.booted, Processor.left_onMachine]
  exact ⟨key.kept c.machine.reset, rfl⟩

/-- A tick that completes leaves the latest snapshot that was published before its update, however
the parts of ticks and the publications are interleaved. The program sees this snapshot until the
next update, and before the first one it sees no key held down. What is not a whole snapshot is
refused and changes nothing. An instruction depends on the keys that the program sees, and not on
the slot. -/
theorem snapshots_delivered {c : Processor} (empty : c.waiting? = none) (rom : List UInt8)
    (es : List TickEvent) :
  let start := Ticking.booted c rom
  let t := start.along es
  (t.stage = .storeKeys [] →
      let done := start.along (es ++ [.part])
      done.stage = .execute ∧ done.cpu.ticks = t.cpu.ticks + 1 ∧
        ∃ before since, es = before ++ .part :: since ∧ start.UpdateBegan before since ∧
          done.cpu.machine.keys = (latest? before).getD .up) ∧
    (∀ before since, es = before ++ .part :: since → (start.along before).stage = .takeKeys →
      (start.along (before ++ [.part])).TakesNone since → t.stage.rest = [] →
      t.cpu.machine.keys = (latest? before).getD .up) ∧
    (start.TakesNone es → t.cpu.machine.keys = .up) ∧
    (∀ states, states.length ≠ 16 → t.cpu.publish states = .error .partialSnapshot t.cpu) ∧
    (∀ states, states.length = 16 → ∃ keys, KeySnapshot.ofList? states = some keys ∧
      keys.toList = states ∧ t.cpu.publish states =
        .ok () { t.cpu with keyChannel := t.cpu.keyChannel.deliver keys }) ∧
    (∀ channel, onState Processor.bare { t.cpu with keyChannel := channel }.step =
      onState Processor.bare t.cpu.step) ∧
    (t.stage = .execute →
      ∃ n, t.CompletesIn n ∧ t.along (parts n) = ⟨left t.cpu.tick, .execute⟩)
  := by
  intro start t
  obtain ⟨up, channel⟩ := keys_booted c rom
  have initially : start.coming = .up := by
    have waits : (c.booted rom).waiting? = none := by
      rw [Processor.waiting?, channel]
      exact empty
    show (c.booted rom).waiting?.getD (c.booted rom).machine.keys = .up
    rw [waits, up]
    rfl
  constructor
  · intro last done
    have complete : done = ⟨{ t.cpu with ticks := t.cpu.ticks + 1 }, .execute⟩ :=
      (along_concat start es .part).trans (advance_complete last)
    obtain ⟨before, since, rfl, began⟩ := exists_updateBegan rfl ⟨[], last⟩
    have keys := keys_along began.takes began.takesNone (congrArg TickStage.rest last)
    rw [initially] at keys
    rw [complete]
    exact ⟨rfl, rfl, before, since, rfl, began, keys⟩
  constructor
  · rintro before since rfl takes none stored
    apply Eq.trans (keys_along takes none stored)
    rw [initially]
  constructor
  · intro none
    rw [keys_of_rest (rest_along none rfl), due_along none]
    exact up
  constructor
  · intro states other
    rw [Processor.publish_eq, KeySnapshot.ofList?, dif_neg other]
  constructor
  · intro states length
    let keys : KeySnapshot := ⟨states.toArray, KeySnapshot.size_states length⟩
    have whole : KeySnapshot.ofList? states = some keys := dif_pos length
    use keys, whole
    rw [Processor.publish_eq, whole]
    exact ⟨rfl, rfl⟩
  constructor
  · intro channel
    apply Overlooks.alike
    rfl
  · intro begins
    obtain ⟨n, completes⟩ := completesIn t
    use n, completes
    rw [completes.left, begins]
    rfl

/-- A run in which a snapshot is published before the keys are taken, and another one while they are
stored. -/
def publishedTwice : List TickEvent :=
  parts 4 ++ [.publish Processor.twoKeysDown, .publish [true]] ++ .part :: (parts 3 ++
    [.publish (List.replicate 16 true)] ++ parts 14)

/-- A snapshot that is published while another one is stored does not mix with it. -/
theorem snapshots_delivered_whole :
  let t := (Ticking.booted (Processor.idle (.ofList [7])) [0x12, 0x00]).along publishedTwice
  t.cpu.ticks = 1 ∧ t.stage = .execute ∧ t.cpu.machine.keys.toList = Processor.twoKeysDown ∧
    t.cpu.publish [true] = .error .partialSnapshot t.cpu
  := by
  intro t
  let start := Ticking.booted (Processor.idle (.ofList [7])) [0x12, 0x00]
  let before : List TickEvent := parts 4 ++ [.publish Processor.twoKeysDown, .publish [true]]
  let since : List TickEvent := parts 3 ++ [.publish (List.replicate 16 true)] ++ parts 14
  have ended : t.cpu.ticks = 1 ∧ t.stage = .execute ∧ (start.along before).stage = .takeKeys := by
    decide +kernel
  obtain ⟨counted, done, takes⟩ := ended
  have none : (start.along (before ++ [.part])).TakesNone since := by
    have each : ∀ mid ∈ since.inits,
        ((start.along (before ++ [.part])).along mid).stage ≠ .takeKeys := by decide +kernel
    intro mid begins
    apply each mid
    exact (List.mem_inits _ _).mpr ((List.prefix_append mid [.part]).trans begins)
  obtain ⟨-, taken, -, partly, -⟩ := snapshots_delivered (c := Processor.idle (.ofList [7])) rfl
    [0x12, 0x00] publishedTwice
  have keys := taken before since rfl takes none (by rw [done]; rfl)
  use counted, done
  constructor
  · rw [keys]
    decide
  · apply partly
    decide

end Ticking

end Chip8
