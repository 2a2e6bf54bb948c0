import Chip8.Proofs.Closing
import Chip8.Proofs.Runs

/-!
# Where a run ends

Between two ticks a processor waits for the next one, unless it was asked to stop, and looks whether
it was asked to stop and whether it has made all its ticks; it does so at no other moment
(`Joint.Paced`). So a run that is asked to stop at any moment finishes the tick that it is in, and
what it leaves is what a whole number of ticks leaves, or the tick that failed (`Joint.Alone`). A
request to stop is never taken back, so no later run makes a tick.
-/

namespace Chip8

/-- Where a processor is in its run. -/
inductive Place where
  /-- It is in the middle of a tick, or has broken down there. -/
  | inside
  /-- It has completed a tick and waits for the next one. -/
  | resting
  /-- The next tick may begin. -/
  | between
  /-- It has broken down since the next tick is too far away. -/
  | stranded
  /-- It has decided to make no more ticks. -/
  | behind

/-- Where a processor is that makes a move next. -/
def ProcessorMove.place : ProcessorMove → Place
  | .execute | .present | .count | .readKeys => .inside
  | .wait => .resting
  | .decide => .between
  | .close (some .endlessWait) | .finished (some .endlessWait) => .stranded
  | .close (some _) | .finished (some _) => .inside
  | .close none | .finished none => .behind

namespace Joint

open Processor

/-! ### The limit of ticks -/

theorem allTicksMade_iff (j : Joint) :
  j.allTicksMade = true ↔ ∃ n, j.limit = some n ∧ n ≤ j.system.cpu.ticks - j.before
  := by
  rw [allTicksMade]
  cases j.limit with
  | none => exact ⟨nofun, nofun⟩
  | some n =>
      rw [decide_eq_true_iff]
      constructor
      · intro made
        exact ⟨n, rfl, made⟩
      · rintro ⟨m, same, made⟩
        rw [Option.some.inj same]
        exact made

/-- What decides whether another tick is made. -/
def pace (j : Joint) : Option Nat × Nat × Nat × (Nat → Bool) :=
  (j.limit, j.before, j.system.cpu.ticks, j.system.cpu.canWaitAt)

theorem allTicksMade_congr {j j' : Joint} (same : j'.pace = j.pace) :
  j'.allTicksMade = j.allTicksMade
  := by
  have limit : j'.limit = j.limit := congrArg Prod.fst same
  have before : j'.before = j.before := congrArg (fun p => p.2.1) same
  have ticks : j'.system.cpu.ticks = j.system.cpu.ticks := congrArg (fun p => p.2.2.1) same
  rw [allTicksMade, allTicksMade, limit, before, ticks]

/-- After every tick of the run up to one, the next one could be waited for. -/
def Waited (j : Joint) (last : Nat) : Prop :=
  ∀ tick, j.before < tick → tick ≤ last → j.system.cpu.canWaitAt tick = true

/-- The processor begins ticks only while there are ticks to make and those before were waited for.
It ends without a breakdown only if it has made all ticks, or for the reason `asked`, and it is
stranded only after a tick. -/
structure Paced (asked : Prop) (limit : Option Nat) (before : Nat) (j : Joint) : Prop where
  limit : j.limit = limit
  before : j.before = before
  since : j.before ≤ j.system.cpu.ticks
  within : ∀ n, j.limit = some n → j.system.cpu.ticks ≤ j.before + n
  inside : j.cpuMove.place = .inside → j.allTicksMade = false ∧ j.Waited j.system.cpu.ticks
  resting : j.cpuMove.place = .resting →
    j.before < j.system.cpu.ticks ∧ j.Waited (j.system.cpu.ticks - 1)
  between : j.cpuMove.place = .between → asked ∨ j.Waited j.system.cpu.ticks
  stranded : j.cpuMove.place = .stranded →
    (j.before < j.system.cpu.ticks ∧ j.Waited (j.system.cpu.ticks - 1)) ∧
      j.system.cpu.canWaitAt j.system.cpu.ticks = false
  behind : j.cpuMove.place = .behind →
    asked ∨ j.allTicksMade = true ∧ j.Waited j.system.cpu.ticks

section

variable {asked : Prop} {limit : Option Nat} {before : Nat} {j : Joint}

/-- What is waited for tick by tick. -/
theorem waited_of_last {last : Nat} (waited : j.Waited (last - 1))
    (near : j.system.cpu.canWaitAt last = true) :
  j.Waited last
  := by
  intro tick after least
  rcases Nat.lt_or_eq_of_le least with less | rfl
  · exact waited tick after (by omega)
  · exact near

theorem Waited.waits {last : Nat} (waited : j.Waited last) {c : Processor}
    (same : j.system.cpu.canWaitAt = c.canWaitAt) (before : j.before = c.ticks) {k : Nat}
    (all : c.ticks + k ≤ last) :
  c.Waits k
  := by
  intro i positive least
  rw [← same]
  apply waited
  · rw [before]
    omega
  · omega

namespace Paced

/-- Nothing matters but where the processor is and what paces it. -/
theorem congr {asked' : Prop} {j' : Joint} (h : Paced asked limit before j)
    (weaker : asked → asked') (place : j'.cpuMove.place = j.cpuMove.place)
    (same : j'.pace = j.pace) :
  Paced asked' limit before j'
  := by
  have limit : j'.limit = j.limit := congrArg Prod.fst same
  have before : j'.before = j.before := congrArg (fun p => p.2.1) same
  have ticks : j'.system.cpu.ticks = j.system.cpu.ticks := congrArg (fun p => p.2.2.1) same
  have near : j'.system.cpu.canWaitAt = j.system.cpu.canWaitAt :=
    congrArg (fun p => p.2.2.2) same
  have waited (last : Nat) : j'.Waited last ↔ j.Waited last := by rw [Waited, Waited, before, near]
  constructor
  · rw [limit, h.limit]
  · rw [before, h.before]
  · rw [before, ticks]
    exact h.since
  · rw [limit, before, ticks]
    exact h.within
  · rw [place, allTicksMade_congr same, waited, ticks]
    exact h.inside
  · rw [place, waited, before, ticks]
    exact h.resting
  · rw [place, waited, ticks]
    intro between
    exact (h.between between).imp_left weaker
  · rw [place, waited, before, ticks, near]
    exact h.stranded
  · rw [place, allTicksMade_congr same, waited, ticks]
    intro behind
    exact (h.behind behind).imp_left weaker

theorem ticks_le (h : Paced asked limit before j) {n : Nat} (limited : limit = some n) :
  j.system.cpu.ticks ≤ before + n
  := by
  rw [← h.before]
  apply h.within n (h.limit.trans limited)

theorem ticks_lt (h : Paced asked limit before j) (inside : j.cpuMove.place = .inside) {n : Nat}
    (limited : limit = some n) :
  j.system.cpu.ticks < before + n
  := by
  have more := mt j.allTicksMade_iff.mpr (Bool.eq_false_iff.mp (h.inside inside).1)
  have since := h.since
  rw [h.before] at more since
  by_contra enough
  apply more
  use n, h.limit.trans limited
  omega

theorem ticks_eq (h : Paced asked limit before j) (behind : j.cpuMove.place = .behind)
    (other : ¬asked) :
  (∃ n, limit = some n ∧ j.system.cpu.ticks = before + n) ∧ j.Waited j.system.cpu.ticks
  := by
  obtain ⟨made, waited⟩ := (h.behind behind).resolve_left other
  obtain ⟨n, limited, enough⟩ := j.allTicksMade_iff.mp made
  have within := h.within n limited
  rw [h.before] at enough within
  refine ⟨⟨n, h.limit.symm.trans limited, ?_⟩, waited⟩
  have since := h.since
  rw [h.before] at since
  omega

variable {c : Processor} {k : Nat}

/-- A processor that has made `k` ticks since it was `c` and is in the next one has waited for it. -/
theorem waits_of_inside (h : Paced asked limit c.ticks j) (inside : j.cpuMove.place = .inside)
    (made : j.system.cpu.ticks = c.ticks + k ∧ j.system.cpu.canWaitAt = c.canWaitAt) :
  c.Waits k ∧ ∀ n, limit = some n → k < n
  := by
  constructor
  · apply (h.inside inside).2.waits made.2 h.before (Nat.le_of_eq made.1.symm)
  · intro n limited
    have less := h.ticks_lt inside limited
    rw [made.1] at less
    exact Nat.lt_of_add_lt_add_left less

/-- A processor is stranded after a tick that the ones before led to. -/
theorem waits_of_stranded (h : Paced asked limit c.ticks j)
    (stranded : j.cpuMove.place = .stranded)
    (made : j.system.cpu.ticks = c.ticks + k ∧ j.system.cpu.canWaitAt = c.canWaitAt) :
  ∃ i, k = i + 1 ∧ c.Waits i ∧ c.canWaitAt (c.ticks + (i + 1)) = false ∧
    ∀ n, limit = some n → i < n
  := by
  obtain ⟨⟨after, waited⟩, far⟩ := h.stranded stranded
  rw [h.before, made.1] at after
  rw [made.2, made.1] at far
  cases k with
  | zero => exact absurd after (Nat.lt_irrefl _)
  | succ i =>
      use i, rfl
      constructor
      · apply waited.waits made.2 h.before
        omega
      use far
      intro n limited
      have less := h.ticks_le limited
      omega

/-- A processor that decides to make no more ticks has made all of them and waited for each. -/
theorem waits_of_behind (h : Paced asked limit c.ticks j) (behind : j.cpuMove.place = .behind)
    (other : ¬asked)
    (made : j.system.cpu.ticks = c.ticks + k ∧ j.system.cpu.canWaitAt = c.canWaitAt) :
  limit = some k ∧ c.Waits k
  := by
  obtain ⟨⟨n, limited, all⟩, waited⟩ := h.ticks_eq behind other
  rw [made.1] at all
  obtain rfl := Nat.add_left_cancel all
  exact ⟨limited, waited.waits made.2 h.before (Nat.le_of_eq made.1.symm)⟩

end Paced

/-- A fault of a tick leaves the processor inside of it. -/
theorem place_breakdownFor (c : Processor) (e : Fault) :
  (ProcessorMove.close (some (c.breakdownFor e))).place = .inside ∧
    (ProcessorMove.finished (some (c.breakdownFor e))).place = .inside
  := by
  rw [breakdownFor]
  split <;> exact ⟨rfl, rfl⟩

/-- A part of a tick leads to another one or fails, and nothing is counted. -/
theorem perform_pace {α : Type} (a : ProcessorAction α) [Keeps tally a] {next : ProcessorMove}
    (goesOn : next.place = .inside) :
  (j.perform a next).pace = j.pace ∧ (j.perform a next).cpuMove.place = .inside
  := by
  rw [perform]
  cases ended : a j.system.cpu with
  | ok x cpu =>
      have kept : cpu.tally = j.system.cpu.tally := Keeps.of_ok ended
      exact ⟨congrArg (fun t => (j.limit, j.before, t.1, t.2.2)) kept, goesOn⟩
  | error e cpu =>
      have kept : cpu.tally = j.system.cpu.tally := Keeps.of_error ended
      have reported : (cpu.reported (cpu.breakdownFor e)).tally = cpu.tally := by
        cases cpu.breakdownFor e <;> rfl
      exact ⟨congrArg (fun t => (j.limit, j.before, t.1, t.2.2)) (reported.trans kept),
        (place_breakdownFor cpu e).1⟩

/-- A wait leads to the next tick, or the processor is stranded. -/
theorem Paced.wait (h : Paced asked limit before j) (next : j.cpuMove = .wait)
    (told : j.system.cpu.stopRequested = true → asked) :
  Paced asked limit before j.cpuTurn
  := by
  obtain ⟨counted, waited⟩ := h.resting (by rw [next]; rfl)
  rw [cpuTurn_wait next]
  by_cases near : (j.system.cpu.stopRequested || j.system.cpu.canWait) = true
  · rw [if_pos near]
    refine { h with
      inside := Place.noConfusion, resting := Place.noConfusion, stranded := Place.noConfusion
      behind := Place.noConfusion, between := fun _ => ?_ }
    rcases Bool.or_eq_true_iff.mp near with asked | near
    · exact .inl (told asked)
    · exact .inr (waited_of_last waited near)
  · rw [if_neg near]
    refine { h with
      inside := Place.noConfusion, resting := Place.noConfusion, between := Place.noConfusion
      behind := Place.noConfusion, stranded := fun _ => ⟨⟨counted, waited⟩, ?_⟩ }
    exact (Bool.or_eq_false_iff.mp (Bool.eq_false_iff.mpr near)).2

theorem Paced.cpuTurn (h : Paced asked limit before j)
    (told : j.system.cpu.stopRequested = true ↔ asked) :
  Paced asked limit before j.cpuTurn
  := by
  by_cases waiting : j.cpuMove = .wait
  · exact h.wait waiting told.mp
  have performed : ∀ {α : Type} (a : ProcessorAction α) [Keeps tally a]
      {next : ProcessorMove}, j.cpuMove.place = .inside → next.place = .inside →
      Paced asked limit before (j.perform a next) := by
    intro α a keeps next inside goesOn
    obtain ⟨same, inside'⟩ := perform_pace (j := j) a goesOn
    exact h.congr id (inside'.trans inside.symm) same
  rw [Joint.cpuTurn]
  cases move : j.cpuMove with
  | wait => exact absurd move waiting
  | decide =>
      have before := h.between (by rw [move]; rfl)
      dsimp only
      split
      · next final =>
          refine { h with
            inside := Place.noConfusion, resting := Place.noConfusion
            between := Place.noConfusion, stranded := Place.noConfusion, behind := fun _ => ?_ }
          rcases Bool.or_eq_true_iff.mp final with stopped | made
          · exact .inl (told.mp stopped)
          · exact before.imp_right fun waited => ⟨made, waited⟩
      · next goesOn =>
          obtain ⟨clear, more⟩ := Bool.or_eq_false_iff.mp (Bool.eq_false_iff.mpr goesOn)
          have waited := before.resolve_left (mt told.mpr (Bool.eq_false_iff.mp clear))
          exact { h with
            inside := fun _ => ⟨more, waited⟩, resting := Place.noConfusion
            between := Place.noConfusion, stranded := Place.noConfusion
            behind := Place.noConfusion }
  | readKeys =>
      have inside : j.cpuMove.place = .inside := by rw [move]; rfl
      constructor
      case limit => exact h.limit
      case before => exact h.before
      case since => exact Nat.le_succ_of_le h.since
      case within =>
        intro n limited
        have less := h.ticks_lt inside (h.limit.symm.trans limited)
        rw [← h.before] at less
        exact less
      case resting => exact fun _ => ⟨Nat.lt_succ_of_le h.since, (h.inside inside).2⟩
      all_goals exact Place.noConfusion
  | close b =>
      rcases b with _ | (halt | f | _) <;> exact h.congr id (by rw [move]; rfl) rfl
  | finished b => exact h
  | _ => exact performed _ (by rw [move]; rfl) rfl

theorem attempt_pace (a : HostAction Unit) (next : HostMove) (failed : HostError → HostMove) :
  (j.attempt a next failed).limit = j.limit ∧ (j.attempt a next failed).before = j.before
  := by
  rw [attempt]
  cases a j.system with
  | ok x s => exact ⟨rfl, rfl⟩
  | error e s => exact ⟨rfl, rfl⟩

/-- The host does not interfere with the pace. -/
theorem hostTurn_pace (j : Joint) :
  j.hostTurn.pace = j.pace
  := by
  obtain ⟨-, same, -⟩ := hostTurn_cpu j
  have ticks : j.hostTurn.system.cpu.ticks = j.system.cpu.ticks :=
    congrArg (fun c => c.ticks) same
  have near : j.hostTurn.system.cpu.canWaitAt = j.system.cpu.canWaitAt :=
    congrArg (fun c => c.canWaitAt) same
  have kept : j.hostTurn.limit = j.limit ∧ j.hostTurn.before = j.before := by
    rw [hostTurn]
    cases j.hostMove with
    | check =>
        dsimp only
        split
        · exact ⟨rfl, rfl⟩
        · split <;> exact ⟨rfl, rfl⟩
    | join error =>
        dsimp only
        split <;> exact ⟨rfl, rfl⟩
    | leave error => exact ⟨rfl, rfl⟩
    | finished error => exact ⟨rfl, rfl⟩
    | _ => apply attempt_pace
  rw [pace, pace, ticks, near, kept.1, kept.2]

theorem Paced.hostTurn (h : Paced asked limit before j) :
  Paced asked limit before j.hostTurn
  := h.congr id (congrArg ProcessorMove.place (hostTurn_cpu j).1) (hostTurn_pace j)

theorem paced_start (limit : Option Nat) (s : System) :
  Paced asked limit s.cpu.ticks (start limit s)
  where
  limit := rfl
  before := rfl
  since := Nat.le_refl _
  within n _ := Nat.le_add_right _ n
  inside := nofun
  resting := nofun
  between _ := .inr fun _ after least => absurd least (Nat.not_le_of_lt after)
  stranded := nofun
  behind := nofun

end

/-! ### A processor alone -/

/-- What happens to a processor that runs without a host. -/
inductive Signal where
  /-- It makes its next move. -/
  | move
  /-- It is asked to stop. -/
  | stop
deriving DecidableEq

/-- The processor after a signal. -/
def heed (j : Joint) : Signal → Joint
  | .move => j.cpuTurn
  | .stop => { j with system := { j.system with cpu := j.system.cpu.stop } }

/-- The processor after a row of signals. -/
def heedAll (j : Joint) (signals : List Signal) : Joint := signals.foldl heed j

theorem heedAll_concat (j : Joint) (signals : List Signal) (g : Signal) :
  j.heedAll (signals ++ [g]) = (j.heedAll signals).heed g
  := List.foldl_concat heed j g signals

/-- Whether a processor was asked to stop is told by the signals. -/
theorem heedAll_stopRequested {j : Joint} (clear : j.system.cpu.stopRequested = false)
    (signals : List Signal) :
  (j.heedAll signals).system.cpu.stopRequested = true ↔ .stop ∈ signals
  := by
  induction signals using List.reverseRecOn with
  | nil =>
      rw [heedAll, List.foldl_nil, clear]
      simp
  | append_singleton signals g ih =>
      rw [heedAll_concat]
      cases g with
      | move =>
          rw [heed, cpuTurn_stopRequested, ih]
          simp
      | stop => exact iff_of_true rfl (List.mem_append_right _ (List.mem_singleton_self _))

theorem paced_heedAll (limit : Option Nat) {s : System} (clear : s.cpu.stopRequested = false)
    (signals : List Signal) :
  Paced (.stop ∈ signals) limit s.cpu.ticks ((start limit s).heedAll signals)
  := by
  induction signals using List.reverseRecOn with
  | nil => exact paced_start limit s
  | append_singleton signals g ih =>
      have more : Signal.stop ∈ signals → Signal.stop ∈ signals ++ [g] :=
        fun asked => List.mem_append_left _ asked
      rw [heedAll_concat]
      cases g with
      | move =>
          have next := ih.cpuTurn (heedAll_stopRequested (j := start limit s) clear signals)
          exact next.congr more rfl rfl
      | stop => exact ih.congr more rfl rfl

end Joint

/-! ### Whole ticks -/

namespace Processor

/-- The processor without the request to stop. -/
def unasked (c : Processor) : Processor := { c with stopRequested := false }

instance passive_unasked : Passive unasked where
  machine _ _ := rfl
  progress _ _ := rfl
  live _ := rfl
  note level component message same :=
    congrArg (fun e : Processor => e.note level component message) same
  play same := congrArg (fun e : Processor => { e with buzzerChannel := e.buzzerChannel.play }) same
  silence same := congrArg (fun e : Processor => e.silence) same

/-- But for requests to stop, the processor `cpu` has made `k` ticks since it was `c`, and `p` is
its next move. -/
def Amid (c : Processor) (k : Nat) (p : ProcessorMove) (cpu : Processor) : Prop :=
  ∃ m, tickTimes k c = .ok () m ∧
    match p with
    | .close (some b) => ∃ d, Breaks m b d ∧ cpu.unasked = (d.reported b).unasked
    | .finished (some b) => ∃ d, Breaks m b d ∧ cpu.unasked = (d.broken b).unasked
    | .finished none => cpu.unasked = (m.stopped k).unasked
    | p => ∃ d, begun p m = .ok () d ∧ cpu.unasked = d.unasked

section

variable {c cpu : Processor} {k : Nat} {p : ProcessorMove}

theorem Amid.congr (h : Amid c k p cpu) {cpu' : Processor} (same : cpu'.unasked = cpu.unasked) :
  Amid c k p cpu'
  := by
  obtain ⟨m, made, amid⟩ := h
  use m, made
  cases p with
  | close b =>
      cases b <;>
      · obtain ⟨d, reached, alike⟩ := amid
        exact ⟨d, reached, same.trans alike⟩
  | finished b =>
      cases b with
      | none => exact same.trans amid
      | some b =>
          obtain ⟨d, breaks, alike⟩ := amid
          exact ⟨d, breaks, same.trans alike⟩
  | _ =>
      obtain ⟨d, reached, alike⟩ := amid
      exact ⟨d, reached, same.trans alike⟩

theorem canWait_of_unasked {c d : Processor} (same : c.unasked = d.unasked) :
  c.canWait = d.canWait
  := congrArg (fun e => e.canWait) same

theorem reported_unasked {c d : Processor} (same : c.unasked = d.unasked) (b : Breakdown) :
  (c.reported b).unasked = (d.reported b).unasked
  := by
  cases b with
  | halt h => exact passive_unasked.note _ _ _ same
  | fault f => exact same
  | endlessWait => exact same

end

end Processor

namespace Joint

open Processor

section

variable {c : Processor} {k : Nat} {j : Joint}

/-- The processor runs alone since it was `c`. -/
structure Alone (c : Processor) (j : Joint) : Prop where
  before : j.before = c.ticks
  amid : ∃ k, Amid c k j.cpuMove j.system.cpu

/-- A part of a tick leads to the next move, or the tick fails. -/
theorem alone_perform {α : Type} {a : ProcessorAction α} [Overlooks unasked a]
    {p next : ProcessorMove} {m d : Processor} (leads : Leads p a next)
    (before : j.before = c.ticks) (made : tickTimes k c = .ok () m) (reached : begun p m = .ok () d)
    (alike : j.system.cpu.unasked = d.unasked)
    (running : ∀ {cpu d}, begun next m = .ok () d → cpu.unasked = d.unasked → Amid c k next cpu) :
  Alone c (j.perform a next)
  := by
  rw [perform]
  cases ended : a j.system.cpu with
  | ok x cpu =>
      obtain ⟨d', ended', alike'⟩ := Overlooks.of_ok alike.symm ended
      use before, k
      apply running (leads.goesOn reached ended') alike'.symm
  | error e cpu =>
      obtain ⟨d', ended', alike'⟩ := Overlooks.of_error alike.symm ended
      have cause : cpu.breakdownFor e = d'.breakdownFor e := breakdownFor_of_passive alike'.symm e
      refine ⟨before, k, m, made, d', .inl ⟨e, leads.fails reached ended', cause⟩, ?_⟩
      apply reported_unasked alike'.symm

/-- A wait leads to the next tick, or the processor breaks down. -/
theorem Alone.wait (h : Alone c j) (next : j.cpuMove = .wait) :
  Alone c j.cpuTurn
  := by
  obtain ⟨before, k, m, made, amid⟩ := h
  rw [next] at amid
  obtain ⟨d, reached, alike⟩ := amid
  rw [cpuTurn_wait next]
  by_cases near : (j.system.cpu.stopRequested || j.system.cpu.canWait) = true
  · rw [if_pos near]
    exact ⟨before, k, m, made, d, reached, alike⟩
  · rw [if_neg near]
    cases reached
    have far := (Bool.or_eq_false_iff.mp (Bool.eq_false_iff.mpr near)).2
    rw [canWait_of_unasked alike] at far
    exact ⟨before, k, m, made, m, .inr ⟨rfl, far, rfl⟩, alike⟩

theorem Alone.cpuTurn (h : Alone c j) :
  Alone c j.cpuTurn
  := by
  by_cases waiting : j.cpuMove = .wait
  · exact h.wait waiting
  obtain ⟨before, k, m, made, amid⟩ := h
  rw [Joint.cpuTurn]
  cases next : j.cpuMove with
  | wait => exact absurd next waiting
  | decide =>
      rw [next] at amid
      dsimp only
      split
      · exact ⟨before, k, m, made, amid⟩
      · exact ⟨before, k, m, made, amid⟩
  | execute =>
      rw [next] at amid
      obtain ⟨d, reached, alike⟩ := amid
      apply alone_perform leads_execute before made reached alike
      exact fun reached alike => ⟨m, made, _, reached, alike⟩
  | present =>
      rw [next] at amid
      obtain ⟨d, reached, alike⟩ := amid
      apply alone_perform leads_present before made reached alike
      exact fun reached alike => ⟨m, made, _, reached, alike⟩
  | count =>
      rw [next] at amid
      obtain ⟨d, reached, alike⟩ := amid
      apply alone_perform leads_count before made reached alike
      exact fun reached alike => ⟨m, made, _, reached, alike⟩
  | readKeys =>
      rw [next] at amid
      obtain ⟨d, reached, alike⟩ := amid
      refine ⟨before, k + 1, d.completed, ?_, d.completed, rfl, ?_⟩
      · rw [tickTimes, repeated_succ, bind_of_ok made, tick_eq_begun, bind_of_ok reached]
        rfl
      · exact congrArg completed alike
  | close b =>
      rw [next] at amid
      cases b with
      | none =>
          obtain ⟨d, reached, alike⟩ := amid
          cases reached
          have ticks : j.system.cpu.ticks = m.ticks := congrArg (fun e => e.ticks) alike
          have all : j.system.cpu.ticks - j.before = k := by
            rw [ticks, ticks_of_tickTimes made, before, Nat.add_sub_cancel_left]
          refine ⟨before, k, m, made, ?_⟩
          dsimp only
          rw [all]
          exact congrArg (fun e : Processor => e.stopped k) alike
      | some b =>
          obtain ⟨d, breaks, alike⟩ := amid
          exact ⟨before, k, m, made, d, breaks, passive_unasked.silence alike⟩
  | finished b =>
      refine ⟨before, k, ?_⟩
      rw [next] at amid
      show Amid c k j.cpuMove j.system.cpu
      rw [next]
      exact ⟨m, made, amid⟩

end

theorem alone_heedAll (limit : Option Nat) (s : System) (signals : List Signal) :
  Alone s.cpu.started ((start limit s).heedAll signals)
  := by
  induction signals using List.reverseRecOn with
  | nil => exact ⟨rfl, 0, s.cpu.started, rfl, s.cpu.started, rfl, rfl⟩
  | append_singleton signals g ih =>
      rw [heedAll_concat]
      cases g with
      | move => apply ih.cpuTurn
      | stop =>
          obtain ⟨before, k, amid⟩ := ih
          exact ⟨before, k, amid.congr rfl⟩

/-- How a run that is alone ends, and after how many ticks. -/
theorem ends_heedAll {limit : Option Nat} {s : System} (clear : s.cpu.stopRequested = false)
    {signals : List Signal} {breakdown : Option Breakdown}
    (ended : ((start limit s).heedAll signals).cpuMove = .finished breakdown) :
  let cpu := ((start limit s).heedAll signals).system.cpu
  (∃ k d, breakdown = none ∧ tickTimes k s.cpu.started = .ok () d ∧
      cpu.unasked = (d.stopped k).unasked ∧
      ∀ n, limit = some n → k ≤ n ∧ (.stop ∉ signals → k = n ∧ s.cpu.Waits k)) ∨
    (∃ k m e d, breakdown = some (d.breakdownFor e) ∧ FailsAfter s.cpu.started k m e d ∧
      s.cpu.Waits k ∧ cpu.unasked = (d.broken (d.breakdownFor e)).unasked ∧
      ∀ n, limit = some n → k < n) ∨
    ∃ k d, breakdown = some .endlessWait ∧ tickTimes (k + 1) s.cpu.started = .ok () d ∧
      s.cpu.Waits k ∧ s.cpu.canWaitAt (s.cpu.ticks + (k + 1)) = false ∧
      cpu.unasked = d.silence.unasked ∧ ∀ n, limit = some n → k < n
  := by
  intro cpu
  have paced := paced_heedAll limit clear signals
  obtain ⟨-, k, m, made, amid⟩ := alone_heedAll limit s signals
  rw [ended] at amid
  cases breakdown with
  | none =>
      left
      have same : cpu.tally = m.tally := congrArg (fun e => e.tally) amid
      have counted := paced_of_tickTimes (c := s.cpu.started) made same
      use k, m, rfl, made, amid
      intro n limited
      constructor
      · have less := paced.ticks_le limited
        exact Nat.le_of_add_le_add_left (counted.1 ▸ less)
      · intro unasked
        obtain ⟨limited', waits⟩ := paced.waits_of_behind (by rw [ended]; rfl) unasked counted
        exact ⟨Option.some.inj (limited'.symm.trans limited), waits⟩
  | some b =>
      right
      obtain ⟨d, ⟨e, failed, rfl⟩ | ⟨rfl, -, rfl⟩, alike⟩ := amid
      · left
        have fails : FailsAfter s.cpu.started k m e d := ⟨made, tick_eq_error_iff.mpr failed⟩
        have broken : (d.broken (d.breakdownFor e)).tally = d.tally := by
          cases d.breakdownFor e <;> rfl
        have inside : ((start limit s).heedAll signals).cpuMove.place = .inside := by
          rw [ended]
          exact (place_breakdownFor d e).2
        obtain ⟨waits, less⟩ :=
          paced.waits_of_inside inside (fails.paced ((congrArg tally alike).trans broken))
        exact ⟨k, m, e, d, rfl, fails, waits, alike, less⟩
      · right
        have same : cpu.tally = d.tally := congrArg (fun e => e.tally) alike
        have counted := paced_of_tickTimes (c := s.cpu.started) made same
        obtain ⟨k, rfl, waits, far, less⟩ :=
          paced.waits_of_stranded (by rw [ended]; rfl) counted
        exact ⟨k, d, rfl, made, waits, far, alike, less⟩

end Joint

/-! ### Ending after a request to stop -/

/-- The most moves that a processor makes that was asked to stop. -/
def ProcessorMove.rank : ProcessorMove → Nat
  | .execute => 7
  | .present => 6
  | .count => 5
  | .readKeys => 4
  | .wait => 3
  | .decide => 2
  | .close _ => 1
  | .finished _ => 0

namespace Joint

theorem rank_perform {α : Type} (j : Joint) (a : ProcessorAction α) {next : ProcessorMove}
    (before : 1 ≤ next.rank) :
  (j.perform a next).cpuMove.rank ≤ next.rank
  := by
  rw [perform]
  cases a j.system.cpu with
  | ok x cpu => exact Nat.le_refl _
  | error e cpu => exact before

/-- Every move brings a processor that was asked to stop closer to its end. -/
theorem rank_cpuTurn {j : Joint} (stopping : j.system.cpu.stopRequested = true) :
  j.cpuTurn.cpuMove.rank ≤ j.cpuMove.rank - 1
  := by
  rw [cpuTurn]
  cases next : j.cpuMove with
  | decide =>
      dsimp only
      rw [stopping, Bool.true_or, if_pos rfl]
      exact Nat.le_refl 1
  | execute => exact rank_perform j _ (by decide)
  | present => exact rank_perform j _ (by decide)
  | count => exact rank_perform j _ (by decide)
  | readKeys => exact rank_perform j _ (by decide)
  | wait =>
      have turn := cpuTurn_wait next
      rw [stopping, Bool.true_or, if_pos rfl, cpuTurn, next] at turn
      rw [turn]
      exact Nat.le_refl 2
  | close b => cases b <;> exact Nat.le_refl 0
  | finished b =>
      dsimp only
      rw [next]
      exact Nat.le_refl 0

theorem rank_heedAll {j : Joint} (stopping : j.system.cpu.stopRequested = true) (n : Nat) :
  (j.heedAll (List.replicate n .move)).cpuMove.rank ≤ j.cpuMove.rank - n
  := by
  induction n generalizing j with
  | zero => exact Nat.le_refl _
  | succ n ih =>
      have stopping' : j.cpuTurn.system.cpu.stopRequested = true :=
        (cpuTurn_stopRequested j).trans stopping
      have closer := rank_cpuTurn stopping
      have rest := ih stopping'
      show (j.cpuTurn.heedAll (List.replicate n .move)).cpuMove.rank ≤ _
      omega

/-- Seven moves after it was asked to stop, a processor has finished. -/
theorem cpuFinished_of_stop (j : Joint) (signals : List Signal) :
  (j.heedAll (signals ++ .stop :: List.replicate 7 .move)).cpuFinished = true
  := by
  let asked := (j.heedAll signals).heed .stop
  have most : ∀ p : ProcessorMove, p.rank ≤ 7 := by
    intro p
    cases p <;> rw [ProcessorMove.rank] <;> decide
  have rest := rank_heedAll (j := asked) rfl 7
  have split : j.heedAll (signals ++ .stop :: List.replicate 7 .move) =
      asked.heedAll (List.replicate 7 .move) := by
    rw [heedAll, List.foldl_append]
    rfl
  have zero := Nat.le_zero.mp (rest.trans (Nat.le_of_eq (Nat.sub_eq_zero_of_le (most _))))
  rw [split, cpuFinished]
  cases final : (asked.heedAll (List.replicate 7 .move)).cpuMove with
  | finished b => rfl
  | _ =>
      rw [final] at zero
      cases zero

end Joint

/-! ### Later runs -/

namespace Processor

/-- The processor after runs with given limits. -/
def runs (c : Processor) (limits : List Nat) : Processor := limits.foldl (fun c n => (c.run n).2) c

/-- Once a processor was asked to stop, it makes no ticks in any run, and stays as it is once it is
silent. -/
theorem runs_of_stopRequested {c : Processor} (stopping : c.stopRequested = true)
    (limits : List Nat) :
  (c.runs limits).stopRequested = true ∧ (c.runs limits).quiet = c.quiet
  := by
  induction limits generalizing c with
  | nil => exact ⟨stopping, rfl⟩
  | cons n limits ih =>
      have next : (c.run n).2 = c.started.stopped 0 := by rw [run_of_stopRequested stopping]
      have same : (c.started.stopped 0).quiet = c.quiet := by
        show { c.silence.silence with journal := #[] } = { c.silence with journal := #[] }
        rw [silence, silence, BuzzerChannel.stop_stop]
      have rest := @ih (c.started.stopped 0) stopping
      show ((c.run n).2.runs limits).stopRequested = true ∧
        ((c.run n).2.runs limits).quiet = c.quiet
      rw [next, ← same]
      exact rest

theorem runToEnd?_of_stopRequested {c : Processor} (stopping : c.stopRequested = true)
    (fuel : Nat) :
  c.runToEnd? fuel = some (.ok (), c.started.stopped 0)
  := by
  have final : ended (.ok () c.started) = true := stopping
  have none : c.started.ticks - c.ticks = 0 := Nat.sub_self _
  rw [runToEnd?, tickUpTo_of_stopRequested (c := c.started) stopping, if_pos final, conclude, none]

/-- The state of a processor but for the request to stop, together with this request, is its
state. -/
theorem eq_of_unasked {c d : Processor} (same : c.unasked = d.unasked)
    (stop : c.stopRequested = d.stopRequested) :
  c = d
  := by
  calc c
    _ = { c.unasked with stopRequested := c.stopRequested } := rfl
    _ = { d.unasked with stopRequested := d.stopRequested } := by rw [same, stop]

theorem ticks_of_unasked {c d : Processor} (same : c.unasked = d.unasked) :
  c.ticks = d.ticks
  := congrArg (fun e => e.ticks) same

/-- The ticks of a run complete and are waited for, or there is a first one that fails or that the
next one is too far away from. -/
theorem run_cases (n : Nat) (c : Processor) :
  (∃ d, tickTimes n c.started = .ok () d ∧ c.Waits n) ∨
    (∃ k < n, ∃ m e d, FailsAfter c.started k m e d ∧ c.Waits k) ∨
    ∃ k < n, ∃ d, tickTimes (k + 1) c.started = .ok () d ∧ c.Waits k ∧
      c.canWaitAt (c.ticks + (k + 1)) = false
  := by
  rcases tickTimes_cases n c.started with ⟨d, made⟩ | ⟨k, less, m, e, d, fails⟩
  · rcases waits_cases c n with waits | ⟨i, less, waits, far⟩
    · exact .inl ⟨d, made, waits⟩
    · obtain ⟨d', before⟩ := repeated_before less made
      exact .inr (.inr ⟨i, less, d', before, waits, far⟩)
  · rcases waits_cases c k with waits | ⟨i, less', waits, far⟩
    · exact .inr (.inl ⟨k, less, m, e, d, fails, waits⟩)
    · obtain ⟨d', before⟩ := repeated_before less' fails.made
      exact .inr (.inr ⟨i, Nat.lt_trans less' less, d', before, waits, far⟩)

/-- Take a processor that was not asked to stop. Its run makes ticks and waits after each of them
until it has made all of them, one fails or the next one is too far away, and then it switches the
buzzer off. If it makes its run in two parts, then everything ends as if it had made the run at once,
but for the notes. If it is asked to stop at any moment, the run ends within seven moves, and what it
leaves is what a whole number of ticks leaves, or the tick that failed; without such a request the
moves of the run leave what the run leaves. After a request, all later runs make no tick and change
nothing but the notes. -/
theorem run_iterates {c : Processor} (clear : c.stopRequested = false) :
  (∀ n, (∃ d, tickTimes n c.started = .ok () d ∧ c.Waits n ∧ d.ticks = c.ticks + n ∧
        c.run n = (.ok (), d.stopped n)) ∨
      (∃ k m e d, k < n ∧ FailsAfter c.started k m e d ∧ c.Waits k ∧ d.ticks = c.ticks + k ∧
        c.run n = (.error (d.breakdownFor e), d.broken (d.breakdownFor e))) ∨
      ∃ k d, k < n ∧ tickTimes (k + 1) c.started = .ok () d ∧ c.Waits k ∧
        c.canWaitAt (c.ticks + (k + 1)) = false ∧ d.ticks = c.ticks + (k + 1) ∧
        c.run n = (.error .endlessWait, d.silence)) ∧
    (∀ a b, (runTwice a b c).1 = (c.run (a + b)).1 ∧
      (runTwice a b c).2.unlogged = (c.run (a + b)).2.unlogged) ∧
    (∀ limit host signals, ((Joint.start limit ⟨c, host⟩).heedAll
      (signals ++ .stop :: List.replicate 7 .move)).cpuFinished = true) ∧
    ∀ limit host signals breakdown,
      let j := (Joint.start limit ⟨c, host⟩).heedAll signals
      j.cpuMove = .finished breakdown →
        ((∃ k d, breakdown = none ∧ tickTimes k c.started = .ok () d ∧
            j.system.cpu.unasked = (d.stopped k).unasked ∧ ∀ n, limit = some n → k ≤ n) ∨
          (∃ k m e d, breakdown = some (d.breakdownFor e) ∧ FailsAfter c.started k m e d ∧
            c.Waits k ∧ j.system.cpu.unasked = (d.broken (d.breakdownFor e)).unasked ∧
            ∀ n, limit = some n → k < n) ∨
          ∃ k d, breakdown = some .endlessWait ∧ tickTimes (k + 1) c.started = .ok () d ∧
            c.Waits k ∧ c.canWaitAt (c.ticks + (k + 1)) = false ∧
            j.system.cpu.unasked = d.silence.unasked ∧ ∀ n, limit = some n → k < n) ∧
        (.stop ∉ signals → ∀ n, limit = some n →
          c.run n = (breakdown.elim (.ok ()) .error, j.system.cpu)) ∧
        (.stop ∈ signals → ∀ limits n fuel,
          let d := j.system.cpu.runs limits
          d.quiet = j.system.cpu.quiet ∧ d.run n = (.ok (), d.started.stopped 0) ∧
            d.runToEnd? fuel = some (.ok (), d.started.stopped 0))
  := by
  constructor
  · intro n
    rcases run_cases n c with ⟨d, made, waits⟩ | ⟨k, less, m, e, d, fails, waits⟩ |
      ⟨k, less, d, made, waits, far⟩
    · left
      exact ⟨d, made, waits, ticks_of_tickTimes (c := c.started) made, run_of_ok clear made waits⟩
    · right
      left
      use k, m, e, d, less, fails, waits, fails.ticks
      apply run_of_breaksAfter clear (breaksAfter_of_failsAfter (c := c.started) fails waits) less
    · right
      right
      use k, d, less, made, waits, far, ticks_of_tickTimes (c := c.started) made
      apply run_of_breaksAfter clear (breaksAfter_of_far (c := c.started) clear made waits far) less
  use runTwice_eq clear
  use fun limit host signals => Joint.cpuFinished_of_stop (Joint.start limit ⟨c, host⟩) signals
  intro limit host signals breakdown j ended
  have ends := Joint.ends_heedAll (s := ⟨c, host⟩) clear ended
  have told := Joint.heedAll_stopRequested (j := Joint.start limit ⟨c, host⟩) clear signals
  constructor
  · rcases ends with ⟨k, d, quiet, made, same, within⟩ | broken
    · left
      exact ⟨k, d, quiet, made, same, fun n limited => (within n limited).1⟩
    · exact .inr broken
  constructor
  · intro unasked n limited
    have still : j.system.cpu.stopRequested = false := Bool.eq_false_iff.mpr (mt told.mp unasked)
    rcases ends with ⟨k, d, rfl, made, same, within⟩ |
      ⟨k, m, e, d, rfl, fails, waits, same, within⟩ | ⟨k, d, rfl, made, waits, far, same, within⟩
    · obtain ⟨rfl, waits⟩ := (within n limited).2 unasked
      have stop : (d.stopped k).stopRequested = false :=
        (stopRequested_of_tickTimes made).trans clear
      rw [run_of_ok clear made waits, ← eq_of_unasked same (still.trans stop.symm)]
      rfl
    · have breaks := breaksAfter_of_failsAfter (c := c.started) fails waits
      have stop : (d.broken (d.breakdownFor e)).stopRequested = false := by
        apply Eq.trans _ (fails.stopRequested.trans clear)
        cases d.breakdownFor e <;> rfl
      rw [run_of_breaksAfter clear breaks (within n limited),
        ← eq_of_unasked same (still.trans stop.symm)]
      rfl
    · have breaks := breaksAfter_of_far (c := c.started) clear made waits far
      have stop : d.silence.stopRequested = false := (stopRequested_of_tickTimes made).trans clear
      rw [run_of_breaksAfter clear breaks (within n limited)]
      exact congrArg (Prod.mk _) (eq_of_unasked same (still.trans stop.symm)).symm
  · intro asked limits n fuel d
    obtain ⟨stopping, same⟩ := runs_of_stopRequested (told.mpr asked) limits
    exact ⟨same, run_of_stopRequested stopping n, runToEnd?_of_stopRequested stopping fuel⟩

/-- A request to stop in the middle of the first tick. -/
def stopInTick : List Joint.Signal :=
  [.move, .move, .stop] ++ List.replicate 10 .move

/-- A processor that might make five ticks, after it was asked to stop in the first one. -/
def stoppedInTick : Joint :=
  (Joint.start (some 5) ⟨blinking, Joint.blinkingBeside.host⟩).heedAll stopInTick

/-- The tick is completed, and then no other is made in this run or the next. -/
theorem run_iterates_asked :
  blinking.stopRequested = false ∧ stoppedInTick.cpuMove = .finished none ∧
    (∃ d, tickTimes 1 blinking.started = .ok () d ∧
      stoppedInTick.system.cpu.unasked = (d.stopped 1).unasked) ∧
    (stoppedInTick.system.cpu.run 5).2.ticks = 1 ∧
    (runTwice 2 3 blinking).2.unlogged = (blinking.run 5).2.unlogged
  := by
  have clear : blinking.stopRequested = false := rfl
  have run : stoppedInTick.cpuMove = .finished none ∧ stoppedInTick.system.cpu.ticks = 1 := by
    decide +kernel
  have kept : ∀ c : Processor, (c.started.stopped 0).ticks = c.ticks := fun _ => rfl
  obtain ⟨-, twice, -, ends⟩ := run_iterates clear
  have key := ends (some 5) Joint.blinkingBeside.host stopInTick none
  rw [← stoppedInTick] at key
  obtain ⟨stops, -, idle⟩ := key run.1
  have later := (idle (by decide) [] 5 0).2.1
  rw [runs, List.foldl_nil] at later
  refine ⟨clear, run.1, ?_, ?_, (twice 2 3).2⟩
  · rcases stops with ⟨k, d, -, made, same, -⟩ | ⟨k, m, e, d, absurd, -⟩ | ⟨k, d, absurd, -⟩
    · have all := ticks_of_unasked same
      have ticks : (d.stopped k).ticks = 0 + k := ticks_of_tickTimes made
      rw [run.2, ticks, Nat.zero_add] at all
      rw [← all] at made same
      exact ⟨d, made, same⟩
    · cases absurd
    · cases absurd
  · rw [later, kept]
    exact run.2

/-- A processor that jumps to where it is, and whose ticks are further apart than its clock can
wait. -/
def circling : Processor := drowsy.booted [0x12, 0x00]

/-- A run may end before all its ticks are made though none of them fails: the second one is too far
away. -/
theorem run_not_iterated :
  circling.stopRequested = false ∧ (∃ d, tickTimes 2 circling.started = .ok () d ∧ d.ticks = 2) ∧
    (circling.run 2).1 = .error .endlessWait ∧ (circling.run 2).2.ticks = 1
  := by
  have completes : (EStateM.run' (tickTimes 2) circling.started).isSome = true := by
    decide +kernel
  refine ⟨rfl, ?_, by decide +kernel, by decide +kernel⟩
  delta EStateM.run' EStateM.run at completes
  cases made : tickTimes 2 circling.started with
  | ok u d => exact ⟨d, rfl, ticks_of_tickTimes made⟩
  | error e d =>
      rw [made] at completes
      cases completes

end Processor

end Chip8
