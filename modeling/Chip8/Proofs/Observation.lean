import Chip8.Proofs.Oblivious

/-!
# Observation does not influence the program

A run whose host takes frames and asks for the buzzer at any moment has the same core as the run in
which it does not (`Ticking.core_watch`), and two runs that differ in what is watched, and in what
they hold for those who watch, have the same core.
-/

namespace Chip8

/-! ### Watching -/

/-- What the host does to see and to hear the program. -/
inductive Glance where
  /-- It takes the newest frame. -/
  | takeFrame
  /-- It asks whether the buzzer was switched. -/
  | pollBuzzer
deriving DecidableEq

/-- The processor after the host had a glance at it. -/
def Processor.glanced (c : Processor) : Glance → Processor
  | .takeFrame => { c with machine := { c.machine with screen := c.machine.screen.takeFrame.2 } }
  | .pollBuzzer => { c with buzzerChannel := c.buzzerChannel.poll.2 }

/-- What happens while ticks are made and watched. -/
inductive WatchEvent where
  /-- The processor makes a part of a tick, or keys are published. -/
  | tick (e : TickEvent)
  /-- The host has a glance at the program. -/
  | glance (g : Glance)
deriving DecidableEq

namespace WatchEvent

/-- Whether an event is something other than a glance. -/
def isTick : WatchEvent → Bool
  | .tick _ => true
  | .glance _ => false

/-- The events without the glances. -/
def unwatched (es : List WatchEvent) : List WatchEvent := es.filter isTick

theorem unwatched_glance (es : List WatchEvent) (g : Glance) :
  unwatched (es ++ [.glance g]) = unwatched es
  := by
  rw [unwatched, List.filter_append]
  exact List.append_nil _

theorem unwatched_tick (es : List WatchEvent) (e : TickEvent) :
  unwatched (es ++ [.tick e]) = unwatched es ++ [.tick e]
  := List.filter_append _ _

end WatchEvent

/-- The word at the program counter and its instruction, if the word can be fetched and the
instruction is found. -/
def Machine.found? (m : Machine) : Option (Nat × Instruction) :=
  match m.ram.read m.registers.pc.value 2 with
  | .ok w => (Instruction.ofWord? w).map fun i => (w, i)
  | .error _ => none

/-- The processor about to execute an instruction, of which nothing is known yet. -/
def Processor.starting (c : Processor) : Processor :=
  { c with progress := ⟨c.machine.registers.pc.value, none, none⟩ }

/-- The note that a live processor takes of an instruction before it executes it. -/
def Processor.noteOf (c : Processor) (w : Nat) (i : Instruction) : Note :=
  ⟨.debug, .dump, Dump.line c.machine (some w) (i.entry.mnemonic.describe (.ofWord w))⟩

namespace Ticking

open Processor WatchEvent

/-- The processor after something happened. -/
def meet (t : Ticking) : WatchEvent → Ticking
  | .tick e => t.happen e
  | .glance g => { t with cpu := t.cpu.glanced g }

/-- The processor after events, the first one first. -/
def watch (t : Ticking) (es : List WatchEvent) : Ticking := es.foldl meet t

theorem watch_concat (t : Ticking) (es : List WatchEvent) (e : WatchEvent) :
  t.watch (es ++ [e]) = (t.watch es).meet e
  := List.foldl_concat meet t e es

/-- What is told of the events, each in the state in which it happens. -/
def account {α : Type} (tell : Ticking → WatchEvent → Option α) (t : Ticking) :
    List WatchEvent → List α
  | [] => []
  | e :: es => (tell t e).toList ++ account tell (t.meet e) es

theorem account_concat {α : Type} (tell : Ticking → WatchEvent → Option α) (t : Ticking)
    (es : List WatchEvent) (e : WatchEvent) :
  account tell t (es ++ [e]) = account tell t es ++ (tell (t.watch es) e).toList
  := by
  induction es generalizing t with
  | nil => exact List.append_nil _
  | cons first es ih =>
      show _ ++ account tell (t.meet first) (es ++ [e]) = _
      rw [ih, ← List.append_assoc]
      rfl

/-- How a tick ends, if it ends with an event: with a fault, or complete. -/
def ended? (t : Ticking) : WatchEvent → Option (Option Fault)
  | .tick .part =>
      if t.advance.stage = .execute then some (failure? (remaining t.stage t.cpu)) else none
  | _ => none

/-- The instruction that is found with an event, with its word. -/
def found? (t : Ticking) : WatchEvent → Option (Nat × Instruction)
  | .tick .part => if t.stage = .execute then t.cpu.machine.found? else none
  | _ => none

/-- The note that a live processor takes with an event. -/
def note? (t : Ticking) (e : WatchEvent) : Option Note :=
  (t.found? e).map fun found => t.cpu.noteOf found.1 found.2

/-! ### The core of a run -/

theorem core_publish (c : Processor) (states : List Bool) :
  (left (c.core.publish states)).core = (left (c.publish states)).core ∧
    (left (c.publish states)).machine = c.machine
  := by
  rw [publish_eq, publish_eq]
  cases KeySnapshot.ofList? states with
  | some keys => exact ⟨rfl, rfl⟩
  | none => exact ⟨rfl, rfl⟩

/-- The core after an event depends on the core only. -/
theorem meet_core {t : Ticking} (fits : t.cpu.machine.SoundFits) (e : WatchEvent) :
  (t.core.meet e).core = (t.meet e).core ∧ (t.meet e).cpu.machine.SoundFits
  := by
  cases e with
  | tick e =>
      cases e with
      | part => exact advance_core fits
      | publish states =>
          obtain ⟨same, machine⟩ := core_publish t.cpu states
          constructor
          · exact congrArg (fun cpu => Ticking.mk cpu t.stage) same
          · show (left (t.cpu.publish states)).machine.SoundFits
            rw [machine]
            exact fits
  | glance g =>
      cases g with
      | takeFrame => exact ⟨rfl, fits⟩
      | pollBuzzer => exact ⟨rfl, fits⟩

/-- A glance leaves the core. -/
theorem meet_glance (t : Ticking) (g : Glance) :
  (t.meet (.glance g)).core = t.core
  := by
  cases g with
  | takeFrame => rfl
  | pollBuzzer => rfl

theorem watch_fits {t : Ticking} (fits : t.cpu.machine.SoundFits) (es : List WatchEvent) :
  (t.watch es).cpu.machine.SoundFits
  := by
  induction es using List.reverseRecOn with
  | nil => exact fits
  | append_singleton es e ih =>
      rw [watch_concat]
      apply (meet_core ih e).2

/-- The core of a run is the one of the run without glances. -/
theorem core_watch {t : Ticking} (fits : t.cpu.machine.SoundFits) (es : List WatchEvent) :
  (t.core.watch (unwatched es)).core = (t.watch es).core
  := by
  induction es using List.reverseRecOn with
  | nil => rfl
  | append_singleton es e ih =>
      rw [watch_concat]
      cases e with
      | glance g => rw [meet_glance, unwatched_glance, ih]
      | tick e =>
          have fits' := watch_fits (t := t.core) t.cpu.soundFits_core (unwatched es)
          rw [unwatched_tick, watch_concat, ← (meet_core (watch_fits fits es) (.tick e)).1, ← ih,
            (meet_core fits' (.tick e)).1]

/-! ### The beginning of a run -/

/-- An event is the first part of a tick, or it comes before the tick and leaves the progress. -/
theorem meet_starting (c : Processor) (e : WatchEvent) :
  (e = .tick .part ∧ meet ⟨c.starting, .execute⟩ e = meet ⟨c, .execute⟩ e) ∨
    ∃ d : Processor, e ≠ .tick .part ∧ meet ⟨c, .execute⟩ e = ⟨d, .execute⟩ ∧
      meet ⟨c.starting, .execute⟩ e = ⟨d.starting, .execute⟩
  := by
  cases e with
  | tick e =>
      cases e with
      | part => exact .inl ⟨rfl, rfl⟩
      | publish states =>
          right
          use left (c.publish states), nofun, rfl
          show Ticking.mk (left (c.starting.publish states)) _ = _
          rw [publish_eq, publish_eq]
          cases KeySnapshot.ofList? states with
          | some keys => rfl
          | none => rfl
  | glance g =>
      right
      use c.glanced g, nofun, rfl
      cases g with
      | takeFrame => rfl
      | pollBuzzer => rfl

/-- The progress before the first tick is forgotten with its first part. -/
theorem watch_starting (c : Processor) (es : List WatchEvent) :
  watch ⟨c.starting, .execute⟩ es = watch ⟨c, .execute⟩ es ∨
    (.tick .part ∉ es ∧ ∃ d : Processor, watch ⟨c, .execute⟩ es = ⟨d, .execute⟩ ∧
      watch ⟨c.starting, .execute⟩ es = ⟨d.starting, .execute⟩)
  := by
  induction es generalizing c with
  | nil => exact .inr ⟨List.not_mem_nil, c, rfl, rfl⟩
  | cons e es ih =>
      rcases meet_starting c e with ⟨-, same⟩ | ⟨d, other, here, there⟩
      · left
        exact congrArg (fun t => watch t es) same
      · have here' : watch ⟨c, .execute⟩ (e :: es) = watch ⟨d, .execute⟩ es :=
          congrArg (fun t => watch t es) here
        have there' : watch ⟨c.starting, .execute⟩ (e :: es) = watch ⟨d.starting, .execute⟩ es :=
          congrArg (fun t => watch t es) there
        rw [here', there']
        apply (ih d).imp_right
        rintro ⟨none, ended⟩
        use List.not_mem_cons_of_ne_of_not_mem other.symm none

/-- The progress before the first tick makes no difference to anything but itself. -/
theorem watch_starting_agrees (c : Processor) (es : List WatchEvent) :
  let t := watch ⟨c, .execute⟩ es
  let s := watch ⟨c.starting, .execute⟩ es
  s.stage = t.stage ∧ s.cpu.machine = t.cpu.machine ∧ s.cpu.keyChannel = t.cpu.keyChannel ∧
    (.tick .part ∈ es → s.cpu.progress = t.cpu.progress) ∧
    failure? s.cpu.tick = failure? t.cpu.tick
  := by
  intro t s
  rcases watch_starting c es with same | ⟨none, d, here, there⟩
  · have same' : s = t := same
    rw [same']
    exact ⟨rfl, rfl, rfl, fun _ => rfl, rfl⟩
  · have here' : t = ⟨d, .execute⟩ := here
    have there' : s = ⟨d.starting, .execute⟩ := there
    rw [here', there']
    exact ⟨rfl, rfl, rfl, fun member => absurd member none, rfl⟩

/-- Before a step, the core of a processor consists of the core of its machine and the keys that
wait. -/
theorem starting_core {c c' : Processor} (core : c'.machine.core = c.machine.core)
    (keys : c'.keyChannel = c.keyChannel) :
  Ticking.core ⟨c'.starting, .execute⟩ = Ticking.core ⟨c.starting, .execute⟩
  := by
  let whole (m : Machine) (k : KeyChannel) : Processor :=
    { c.starting.core with
      machine := m
      keyChannel := k
      progress := ⟨m.registers.pc.value, none, none⟩ }
  show Ticking.mk (whole c'.machine.core c'.keyChannel) .execute =
    Ticking.mk (whole c.machine.core c.keyChannel) .execute
  rw [core, keys]

/-- What is told of a run is blind if it depends on the core only, tells nothing of glances, and
does not depend on the progress before a tick. -/
structure Blind {α : Type} (tell : Ticking → WatchEvent → Option α) : Prop where
  core : ∀ {t : Ticking} (e), t.cpu.machine.SoundFits → tell t.core e = tell t e
  glance : ∀ t g, tell t (.glance g) = none
  starting : ∀ (c : Processor) e, tell ⟨c.starting, .execute⟩ e = tell ⟨c, .execute⟩ e

section

variable {α : Type} {tell : Ticking → WatchEvent → Option α} (blind : Blind tell)

include blind

theorem Blind.account_core {t : Ticking} (fits : t.cpu.machine.SoundFits) (es : List WatchEvent) :
  account tell t.core (unwatched es) = account tell t es
  := by
  induction es using List.reverseRecOn with
  | nil => rfl
  | append_singleton es e ih =>
      rw [account_concat]
      cases e with
      | glance g => rw [unwatched_glance, blind.glance, ih, Option.toList_none, List.append_nil]
      | tick e =>
          have fits' := watch_fits (t := t.core) t.cpu.soundFits_core (unwatched es)
          rw [unwatched_tick, account_concat, ← blind.core _ (watch_fits fits es),
            ← core_watch fits, blind.core _ fits', ih]

theorem Blind.account_starting (c : Processor) (es : List WatchEvent) :
  account tell ⟨c.starting, .execute⟩ es = account tell ⟨c, .execute⟩ es
  := by
  induction es generalizing c with
  | nil => rfl
  | cons e es ih =>
      rw [account, account, blind.starting]
      rcases meet_starting c e with ⟨-, same⟩ | ⟨d, -, here, there⟩
      · rw [same]
      · rw [here, there, ih]

end

theorem blind_found :
  Blind found?
  where
  core {t} e _ := by
    cases e with
    | tick e => cases e <;> rfl
    | glance g => rfl
  glance _ _ := rfl
  starting c e := by
    cases e with
    | tick e => cases e <;> rfl
    | glance g => rfl

/-- The failure of an oblivious action depends on the core only. -/
theorem failure?_core {α : Type} {a : ProcessorAction α} [blind : Oblivious a] {c : Processor}
    (fits : c.machine.SoundFits) :
  failure? (a c.core) = failure? (a c)
  := by
  rcases onState_cases (blind.core c fits) with ⟨x, d', d, ended', ended, -⟩ |
    ⟨e, d', d, ended', ended, -⟩
  · rw [ended, ended']
    rfl
  · rw [ended, ended']
    rfl

theorem blind_ended :
  Blind ended?
  where
  core {t} e fits := by
    cases e with
    | glance g => rfl
    | tick e =>
        cases e with
        | publish states => rfl
        | part =>
            have stage : t.core.advance.core.stage = t.advance.core.stage :=
              congrArg Ticking.stage (advance_core fits).1
            have failed : failure? (remaining t.core.stage t.core.cpu) =
                failure? (remaining t.stage t.cpu) :=
              failure?_core (a := remaining t.stage) fits
            change t.core.advance.stage = t.advance.stage at stage
            rw [ended?, ended?, stage, failed]
  glance _ _ := rfl
  starting c e := by
    cases e with
    | tick e => cases e <;> rfl
    | glance g => rfl

/-! ### Counting ticks -/

/-- A part that goes on or fails leaves the number of ticks, and it completes none. -/
theorem ticks_perform {α : Type} {t : Ticking} {a : ProcessorAction α} [Keeps tally a]
    {next : TickStage} (inside : next ≠ .execute)
    (same : remaining t.stage = a >>= fun _ => remaining next)
    (advances : t.advance = t.perform a next) :
  t.advance.cpu.ticks = t.cpu.ticks + (t.ended? (.tick .part)).toList.count none
  := by
  rw [ended?, advances, same]
  cases ended : a t.cpu with
  | ok x d =>
      rw [perform_of_ok ended, if_neg inside]
      exact Keeps.of_ok ended
  | error e d =>
      rw [perform_of_error ended, if_pos rfl, bind_of_error ended]
      exact Keeps.of_error ended

theorem ticks_meet (t : Ticking) (e : WatchEvent) :
  (t.meet e).cpu.ticks = t.cpu.ticks + (t.ended? e).toList.count none
  := by
  cases e with
  | glance g => cases g <;> rfl
  | tick e =>
      cases e with
      | publish states =>
          show (left (t.cpu.publish states)).ticks = _
          rw [publish_eq]
          cases KeySnapshot.ofList? states <;> rfl
      | part =>
          obtain ⟨cpu, stage⟩ := t
          cases stage with
          | execute => exact ticks_perform (a := step) (by rintro ⟨⟩) rfl rfl
          | present => exact ticks_perform (a := present) (by rintro ⟨⟩) rfl rfl
          | countDelay => exact ticks_perform (a := countDelay) (by rintro ⟨⟩) rfl rfl
          | serveBuzzer => exact ticks_perform (a := serveBuzzer) (by rintro ⟨⟩) rfl rfl
          | takeKeys => rfl
          | storeKeys writes =>
              cases writes with
              | nil => rfl
              | cons w writes =>
                  show (advance ⟨cpu, .storeKeys (w :: writes)⟩).cpu.ticks = _
                  rw [ended?, advance_storeKeys, if_neg (by rintro ⟨⟩)]
                  rfl

/-- A run counts the ticks that are completed. -/
theorem ticks_watch (t : Ticking) (es : List WatchEvent) :
  (t.watch es).cpu.ticks = t.cpu.ticks + (account ended? t es).count none
  := by
  induction es using List.reverseRecOn with
  | nil => rfl
  | append_singleton es e ih =>
      rw [watch_concat, ticks_meet, ih, account_concat, List.count_append, Nat.add_assoc]

/-! ### Notes -/

/-- A step takes a note if the processor is live and an instruction is found, and executes it. -/
theorem step_found (c : Processor) :
  (c.machine.found? = none ∧ (left c.step).live = c.live ∧ (left c.step).journal = c.journal) ∨
    ∃ w i, c.machine.found? = some (w, i) ∧ (left c.step).live = c.live ∧
      (left c.step).journal = if c.live then c.journal.push (c.noteOf w i) else c.journal
  := by
  let begun := { c with progress := ⟨c.machine.registers.pc.value, none, none⟩ }
  rw [step, bind_of_ok (modify_apply _ c), Machine.found?]
  cases read : c.machine.ram.read c.machine.registers.pc.value 2 with
  | error e =>
      left
      have refused : onMachine Machine.fetch begun = .error e begun := by
        rw [onMachine, Machine.fetch, Action.ask, read]
      rw [bind_of_error refused]
      exact ⟨rfl, rfl, rfl⟩
  | ok w =>
      have fetched : onMachine Machine.fetch begun = .ok w begun := by
        rw [onMachine, Machine.fetch, Action.ask, read]
      rw [bind_of_ok fetched, bind_of_ok (modify_apply _ _)]
      cases found : Instruction.ofWord? w with
      | none =>
          left
          rw [bind_of_error (lookup_of_none _ found)]
          exact ⟨congrArg (Option.map fun i => (w, i)) found, rfl, rfl⟩
      | some i =>
          right
          use w, i, congrArg (Option.map fun i => (w, i)) found
          rw [bind_of_ok (lookup_of_some _ found), bind_of_ok (modify_apply _ _), noteLive,
            bind_of_ok (modify_apply _ _), left_onMachine]
          dsimp only
          cases c.live with
          | true => exact ⟨rfl, rfl⟩
          | false => exact ⟨rfl, rfl⟩

/-- What is noted, and whether it is. -/
def log (c : Processor) : Bool × Array Note := (c.live, c.journal)

instance keepsLog_onMachine {α : Type} (a : Action α) : Keeps log (onMachine a) where
  kept c := by
    rw [left_onMachine]
    rfl

instance keepsLog_present : Keeps log present := keepsLog_onMachine _

instance keepsLog_countDelay : Keeps log countDelay := keepsLog_onMachine _

instance keepsLog_storeKey (k : Fin 16) (down : Bool) : Keeps log (storeKey k down) :=
  keepsLog_onMachine _

instance keepsLog_serveBuzzer : Keeps log serveBuzzer := by
  have switched : ∀ f : Processor → BuzzerChannel, Keeps log
      (modify fun c => { c with buzzerChannel := f c } : ProcessorAction Unit) :=
    fun _ => keeps_modify fun _ => rfl
  have silenced : Keeps log (modify silence : ProcessorAction Unit) := switched _
  unfold serveBuzzer
  infer_instance

/-- The log after a note is taken, if notes are taken at all. -/
def noted (log : Bool × Array Note) (notes : List Note) : Bool × Array Note :=
  (log.1, if log.1 then log.2 ++ notes.toArray else log.2)

theorem noted_nil (l : Bool × Array Note) :
  noted l [] = l
  := by
  obtain ⟨live, journal⟩ := l
  cases live with
  | true => exact congrArg (Prod.mk true) (Array.append_empty)
  | false => rfl

theorem noted_append (l : Bool × Array Note) (notes notes' : List Note) :
  noted (noted l notes) notes' = noted l (notes ++ notes')
  := by
  obtain ⟨live, journal⟩ := l
  cases live with
  | true =>
      apply congrArg (Prod.mk true)
      show journal ++ notes.toArray ++ notes'.toArray = journal ++ (notes ++ notes').toArray
      rw [← List.append_toArray, Array.append_assoc]
  | false => rfl

theorem log_perform {α : Type} {t : Ticking} {a : ProcessorAction α} [kept : Keeps log a]
    {next : TickStage} (inside : t.stage ≠ .execute) (advances : t.advance = t.perform a next) :
  log t.advance.cpu = noted (log t.cpu) (t.note? (.tick .part)).toList
  := by
  have none : t.note? (.tick .part) = none := by
    rw [note?, found?, if_neg inside]
    rfl
  rw [advances, perform_cpu, none, Option.toList_none, noted_nil, kept.kept]

theorem log_meet (t : Ticking) (e : WatchEvent) :
  log (t.meet e).cpu = noted (log t.cpu) (t.note? e).toList
  := by
  cases e with
  | glance g => cases g <;> exact (noted_nil _).symm
  | tick e =>
      cases e with
      | publish states =>
          show log (left (t.cpu.publish states)) = noted _ []
          rw [publish_eq, noted_nil]
          cases KeySnapshot.ofList? states <;> rfl
      | part =>
          obtain ⟨cpu, stage⟩ := t
          cases stage with
          | execute =>
              show log (perform ⟨cpu, .execute⟩ step .present).cpu = noted (log cpu)
                ((cpu.machine.found?).map fun found => cpu.noteOf found.1 found.2).toList
              rw [perform_cpu]
              rcases step_found cpu with ⟨none, live, journal⟩ | ⟨w, i, found, live, journal⟩
              · rw [none, Option.map_none, Option.toList_none, noted_nil, log, live, journal, log]
              · rw [found, Option.map_some, Option.toList_some, noted, log, live, journal, log]
                rfl
          | present => exact log_perform (a := present) (by rintro ⟨⟩) rfl
          | countDelay => exact log_perform (a := countDelay) (by rintro ⟨⟩) rfl
          | serveBuzzer => exact log_perform (a := serveBuzzer) (by rintro ⟨⟩) rfl
          | takeKeys => exact (noted_nil _).symm
          | storeKeys writes =>
              cases writes with
              | nil => exact (noted_nil _).symm
              | cons w writes => exact log_perform (a := storeKey w.1 w.2) (by rintro ⟨⟩) rfl

/-- A live processor notes what it is about to execute, and nothing else is noted. -/
theorem log_watch (t : Ticking) (es : List WatchEvent) :
  log (t.watch es).cpu = noted (log t.cpu) (account note? t es)
  := by
  induction es using List.reverseRecOn with
  | nil => exact (noted_nil _).symm
  | append_singleton es e ih => rw [watch_concat, log_meet, ih, noted_append, account_concat]

theorem length_account_note (t : Ticking) (es : List WatchEvent) :
  (account note? t es).length = (account found? t es).length
  := by
  induction es generalizing t with
  | nil => rfl
  | cons e es ih =>
      rw [account, account, List.length_append, List.length_append, ih, note?]
      cases t.found? e with
      | none => rfl
      | some found => rfl

/-! ### Noninterference -/

/-- What a run tells of itself: the processor counts the ticks that complete, and takes a note of
each instruction that is found, also of one that fails then, if it is live. -/
structure Accounted (c : Processor) (es : List WatchEvent) : Prop where
  ticks : (watch ⟨c, .execute⟩ es).cpu.ticks =
    c.ticks + (account ended? ⟨c, .execute⟩ es).count none
  live : c.live = true → (watch ⟨c, .execute⟩ es).cpu.journal =
    c.journal ++ (account note? ⟨c, .execute⟩ es).toArray
  silent : c.live = false → (watch ⟨c, .execute⟩ es).cpu.journal = c.journal
  notes : (account note? ⟨c, .execute⟩ es).length = (account found? ⟨c, .execute⟩ es).length

theorem accounted (c : Processor) (es : List WatchEvent) :
  Accounted c es
  where
  ticks := ticks_watch ⟨c, .execute⟩ es
  live on := by
    have key := congrArg Prod.snd (log_watch ⟨c, .execute⟩ es)
    exact key.trans (if_pos on)
  silent off := by
    have key := congrArg Prod.snd (log_watch ⟨c, .execute⟩ es)
    exact key.trans (if_neg (Bool.eq_false_iff.mp off))
  notes := length_account_note ⟨c, .execute⟩ es

/-- Two processors whose machines have the same core and for which the same keys wait go the same
way, however differently they are watched: as long as the parts of their ticks and the keys that are
published are the same, they agree after every event on the core, the keys that wait and the
progress, their ticks end in the same way, and they find the same instructions. What the host takes
and asks in between, the sound, the display slot, the redraw, the buzzer and the notes play no
part. -/
theorem watch_alike {c c' : Processor} (core : c'.machine.core = c.machine.core)
    (keys : c'.keyChannel = c.keyChannel) (fits : c.machine.SoundFits)
    (fits' : c'.machine.SoundFits) {es es' : List WatchEvent}
    (same : unwatched es' = unwatched es) :
  let start : Ticking := ⟨c, .execute⟩
  let start' : Ticking := ⟨c', .execute⟩
  let t := start.watch es
  let t' := start'.watch es'
  t'.stage = t.stage ∧ t'.cpu.machine.core = t.cpu.machine.core ∧
    t'.cpu.keyChannel = t.cpu.keyChannel ∧
    (.tick .part ∈ es → t'.cpu.progress = t.cpu.progress) ∧
    account ended? start' es' = account ended? start es ∧
    account found? start' es' = account found? start es ∧
    Accounted c es ∧ Accounted c' es' ∧ failure? t'.cpu.tick = failure? t.cpu.tick
  := by
  intro start start' t t'
  let begun : Ticking := ⟨c.starting, .execute⟩
  let begun' : Ticking := ⟨c'.starting, .execute⟩
  have begins : begun'.core = begun.core := starting_core core keys
  obtain ⟨stage, machine, channel, progress, tick⟩ := watch_starting_agrees c es
  obtain ⟨stage', machine', channel', progress', tick'⟩ := watch_starting_agrees c' es'
  have cores : (begun'.watch es').core = (begun.watch es).core := by
    rw [← core_watch (t := begun') fits' es', ← core_watch (t := begun) fits es, begins, same]
  have part : ∀ {es : List WatchEvent}, .tick .part ∈ unwatched es ↔ .tick .part ∈ es := by
    intro es
    rw [unwatched, List.mem_filter]
    exact and_iff_left rfl
  constructor
  · have equal := congrArg Ticking.stage cores
    exact stage'.symm.trans (equal.trans stage)
  constructor
  · rw [← machine, ← machine']
    exact congrArg (fun t => t.cpu.machine) cores
  constructor
  · rw [← channel, ← channel']
    exact congrArg (fun t => t.cpu.keyChannel) cores
  constructor
  · intro member
    have member' : .tick .part ∈ es' := by
      rw [← part, same, part]
      exact member
    rw [← progress member, ← progress' member']
    exact congrArg (fun t => t.cpu.progress) cores
  constructor
  · rw [← blind_ended.account_starting c, ← blind_ended.account_starting c',
      ← blind_ended.account_core (t := begun') fits', ← blind_ended.account_core (t := begun) fits,
      begins, same]
  constructor
  · rw [← blind_found.account_starting c, ← blind_found.account_starting c',
      ← blind_found.account_core (t := begun') fits', ← blind_found.account_core (t := begun) fits,
      begins, same]
  use accounted c es, accounted c' es'
  have blind : Oblivious Processor.tick := oblivious_remaining .execute
  have failed := failure?_core (a := Processor.tick) (watch_fits (t := begun) fits es)
  have failed' := failure?_core (a := Processor.tick) (watch_fits (t := begun') fits' es')
  have equal := congrArg (fun t => failure? t.cpu.tick) cores
  exact tick'.symm.trans (failed'.symm.trans (equal.trans (failed.trans tick)))

/-- A program that sets the sound timer and then returns without a call. -/
def soundingOnce : Processor := (idle (.ofList [7])).booted [0x60, 0x03, 0xf0, 0x18, 0x00, 0xee]

/-- The same program on a live processor, while the buzzer sounds and no redraw is scheduled. -/
def soundingAlready : Processor :=
  { soundingOnce with
    machine := { soundingOnce.machine with
      sound := ⟨9⟩
      screen := { soundingOnce.machine.screen with redraw := false } }
    buzzerChannel := ⟨true, .holding true⟩
    live := true }

/-- Two ticks that complete and one that fails, with glances in the middle of the first two. -/
def threeTicks (glances : List Glance) : List WatchEvent :=
  (.publish twoKeysDown :: parts 4).map .tick ++ glances.map .glance ++ (parts 20).map .tick ++
    glances.map .glance ++ (parts 5).map .tick

/-- The failing instruction is noted as well. -/
theorem watch_alike_sounding :
  let start : Ticking := ⟨soundingOnce, .execute⟩
  let start' : Ticking := ⟨soundingAlready, .execute⟩
  let t := start.watch (threeTicks [])
  let t' := start'.watch (threeTicks [.takeFrame, .pollBuzzer, .takeFrame])
  t'.cpu.machine.core = t.cpu.machine.core ∧ t'.cpu.progress = t.cpu.progress ∧
    account ended? start' (threeTicks [.takeFrame, .pollBuzzer, .takeFrame]) =
      [none, none, some .stackUnderflow] ∧
    t'.cpu.ticks = 2 ∧ t.cpu.journal.size = 0 ∧ t'.cpu.journal.size = 3
  := by
  -- The runs are not to be evaluated but where their events are accounted for.
  dsimp only
  have run : unwatched (threeTicks [.takeFrame, .pollBuzzer, .takeFrame]) =
        unwatched (threeTicks []) ∧
      .tick .part ∈ threeTicks [] ∧
      account ended? ⟨soundingOnce, .execute⟩ (threeTicks []) =
        [none, none, some .stackUnderflow] ∧
      (account found? ⟨soundingOnce, .execute⟩ (threeTicks [])).length = 3 := by decide +kernel
  obtain ⟨same, part, ended, found⟩ := run
  obtain ⟨-, core, -, progress, ended', found', off, on, -⟩ := watch_alike
    (show soundingAlready.machine.core = soundingOnce.machine.core from rfl) rfl
    (show 0 ≤ 0xff by decide) (show 9 ≤ 0xff by decide) same
  use core, progress part, ended'.trans ended
  constructor
  · rw [on.ticks, ended', ended]
    rfl
  constructor
  · rw [off.silent rfl]
    rfl
  · have noted := on.notes
    rw [found', found, ← List.size_toArray] at noted
    have clear : soundingAlready.journal.size = 0 := rfl
    rw [on.live rfl, Array.size_append, clear, noted]

end Ticking

end Chip8
