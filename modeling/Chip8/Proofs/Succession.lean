import Chip8.Proofs.Determinism

/-!
# Runs in succession

A host may run one processor after the other. What it learns of a breakdown it keeps
(`Joint.lastBreakdown_along`), so a run whose processor did not break down passes on the breakdown of
an earlier one. A run tells of its own processor exactly if this processor broke down or none before
it did (`HostRun.outcome_in_turn`).
-/

namespace Chip8

namespace Joint

/-! ### Waiting for the processor -/

/-- A host that has not asked the processor to stop yet does not wait for it in its next move. -/
theorem stage_hostTurn_le {j : Joint} (early : j.hostMove.stage = 0) :
  j.hostTurn.hostMove.stage ≤ 1
  := by
  cases next : j.hostMove with
  | leave error =>
      rw [hostTurn, next]
      exact Nat.le_refl 1
  | check | publishKeys | showFrame | switchBuzzer =>
      rw [stage_hostTurn_of_refreshing (by rw [next]; decide)]
      exact Nat.zero_le 1
  | join error | showLast | finished error =>
      rw [next] at early
      cases early

/-- A host gets beyond waiting only if the processor has finished. -/
def Joined (j : Joint) : Prop := 2 ≤ j.hostMove.stage → j.cpuFinished = true

theorem Joined.hostTurn {j : Joint} (h : Joined j) :
  Joined j.hostTurn
  := by
  obtain ⟨sameMove, -⟩ := hostTurn_cpu j
  have same : j.hostTurn.cpuFinished = j.cpuFinished := by rw [cpuFinished, sameMove, cpuFinished]
  rw [Joined, same]
  intro late
  cases next : j.hostMove with
  | join error =>
      by_contra running
      rw [Joint.hostTurn, next] at late
      dsimp only at late
      rw [if_neg running, next] at late
      exact Nat.not_succ_le_self 1 late
  | showLast | finished error =>
      apply h
      rw [next]
      exact Nat.le_of_ble_eq_true rfl
  | check | publishKeys | showFrame | switchBuzzer | leave error =>
      have early : j.hostMove.stage = 0 := by rw [next]; rfl
      exact absurd (Nat.le_trans late (stage_hostTurn_le early)) (Nat.not_succ_le_self 1)

theorem Joined.cpuTurn {j : Joint} (h : Joined j) :
  Joined j.cpuTurn
  := by
  cases finished : j.cpuFinished with
  | true =>
      rw [cpuTurn_of_finished finished]
      exact h
  | false =>
      obtain ⟨sameMove, -⟩ := cpuTurn_host j
      rw [Joined, sameMove]
      intro late
      cases finished.symm.trans (h late)

theorem joined_along (limit : Option Nat) (s : System) (es : List Event) :
  Joined ((start limit s).along es)
  := by
  induction es using List.reverseRecOn with
  | nil =>
      intro late
      cases late
  | append_singleton es e ih =>
      rw [along_concat]
      cases e with
      | move t =>
          cases t with
          | cpu => apply ih.cpuTurn
          | host => apply ih.hostTurn
      | keyboard down quitting => exact ih
      | desktop state => exact ih

end Joint

/-! ### Runs of one host -/

/-- A run of a processor beside a host: what it starts with, the most ticks, and what happens. -/
structure HostRun where
  system : System
  limit : Option Nat
  events : List Joint.Event

namespace HostRun

open Joint

/-- What a run leaves. -/
def final (r : HostRun) : Joint := (Joint.start r.limit r.system).along r.events

/-- The outcome of the processor of a run. -/
def result (r : HostRun) : Except Breakdown Unit :=
  match r.final.cpuMove.breakdown? with
  | some b => .error b
  | none => .ok ()

/-- A host makes runs in turn: each of them ends, and the next one begins with the breakdown that the
host learned of last. The processor, the machine and the devices may be others every time. -/
def InTurn (known : Option Breakdown) : List HostRun → Prop
  | [] => True
  | r :: rs =>
      r.system.host.lastBreakdown = known ∧ r.final.hostFinished = true ∧
        InTurn r.final.system.host.lastBreakdown rs

/-- The breakdown that a host knows of after runs, if it knew of `known` before. -/
def latestBreakdown (known : Option Breakdown) (rs : List HostRun) : Option Breakdown :=
  rs.foldl (fun known r => r.final.cpuMove.breakdown?.or known) known

theorem latestBreakdown_singleton (r : HostRun) :
  latestBreakdown none [r] = r.final.cpuMove.breakdown?
  := Option.or_none

theorem lastBreakdown_final (r : HostRun) :
  r.final.system.host.lastBreakdown = r.final.cpuMove.breakdown?.or r.system.host.lastBreakdown
  := lastBreakdown_along r.limit r.system r.events

/-- A run in a row of runs begins with the latest breakdown before it, and it ends. -/
theorem InTurn.begins {known : Option Breakdown} {before after : List HostRun} {r : HostRun}
    (turn : InTurn known (before ++ r :: after)) :
  r.system.host.lastBreakdown = latestBreakdown known before ∧ r.final.hostFinished = true
  := by
  induction before generalizing known with
  | nil => exact ⟨turn.1, turn.2.1⟩
  | cons first before ih =>
      obtain ⟨start, -, rest⟩ := turn
      rw [lastBreakdown_final, start] at rest
      exact ih rest

theorem result_eq_ok_iff (r : HostRun) :
  r.result = .ok () ↔ r.final.cpuMove.breakdown? = none
  := by
  rw [result]
  cases r.final.cpuMove.breakdown? with
  | none => exact ⟨fun _ => rfl, fun _ => rfl⟩
  | some h => exact ⟨nofun, nofun⟩

/-- The host knows of no breakdown exactly if it knew of none and no processor broke down. -/
theorem latestBreakdown_eq_none_iff {known : Option Breakdown} {rs : List HostRun} :
  latestBreakdown known rs = none ↔ known = none ∧ ∀ r ∈ rs, r.result = .ok ()
  := by
  induction rs generalizing known with
  | nil => exact ⟨fun h => ⟨h, fun _ member => absurd member List.not_mem_nil⟩, And.left⟩
  | cons r rs ih =>
      show latestBreakdown (r.final.cpuMove.breakdown?.or known) rs = none ↔ _
      rw [ih, Option.or_eq_none_iff, List.forall_mem_cons, result_eq_ok_iff, and_assoc,
        and_left_comm]

/-- What a host passes on tells whether its processor broke down just now, unless it knew of a
breakdown before. -/
theorem endingOf_eq_iff (result : Except Breakdown Unit) (known : Option Breakdown) :
  endingOf result known = endingOf result none ↔ (∃ h, result = .error h) ∨ known = none
  := by
  cases result with
  | error h => exact ⟨fun _ => .inl ⟨h, rfl⟩, fun _ => rfl⟩
  | ok u =>
      cases known with
      | none => exact ⟨fun _ => .inr rfl, fun _ => rfl⟩
      | some h =>
          constructor
          · rintro ⟨⟩
          · rintro (⟨h', ⟨⟩⟩ | absurd)
            cases absurd

/-- A host whose devices do not fail passes on the breakdown of its processor, or else the latest one
before it. -/
theorem ending_eq {r : HostRun} (served : r.final.hostMove = .finished none) :
  r.final.ending? = some (endingOf r.result r.system.host.lastBreakdown)
  := by
  rw [ending?, served, lastBreakdown_final, result]
  cases r.final.cpuMove.breakdown? with
  | some h => rfl
  | none =>
      show (match r.system.host.lastBreakdown with | some h => _ | none => _) = _
      cases r.system.host.lastBreakdown with
      | some h => rfl
      | none => rfl

/-- When a new host makes runs in turn, in each of them its processor has finished in the end. If a
device failed, the host tells of this. Otherwise it tells of the breakdown of this processor, or else
of the latest one before it; so it tells how this processor ended exactly if this one broke down or
none before it did. -/
theorem outcome_in_turn {before after : List HostRun} {r : HostRun}
    (turn : InTurn none (before ++ r :: after)) :
  (∃ breakdown, r.final.cpuMove = .finished breakdown) ∧
    ((∃ e, r.final.hostMove = .finished (some e) ∧ r.final.ending? = some (.failed e)) ∨
      r.final.hostMove = .finished none ∧
        r.final.ending? = some (endingOf r.result (latestBreakdown none before)) ∧
        (r.final.ending? = some (endingOf r.result none) ↔
          (∃ h, r.result = .error h) ∨ ∀ q ∈ before, q.result = .ok ()))
  := by
  obtain ⟨knows, ended⟩ := turn.begins
  obtain ⟨error, atEnd⟩ := exists_hostMove ended
  constructor
  · apply exists_cpuMove
    apply joined_along r.limit r.system r.events
    show 2 ≤ r.final.hostMove.stage
    rw [atEnd]
    exact Nat.le_of_ble_eq_true rfl
  · cases error with
    | some e =>
        left
        use e, atEnd
        rw [ending?, atEnd]
    | none =>
        right
        have ending := ending_eq atEnd
        rw [knows] at ending
        use atEnd, ending
        have none_iff := @latestBreakdown_eq_none_iff none before
        rw [ending, Option.some_inj, endingOf_eq_iff, none_iff, and_iff_right rfl]

/-- The cause of a halt. -/
def haltCause? : Breakdown → Option Fault
  | .halt h => some h.cause
  | .fault _ | .endlessWait => none

theorem exists_halt {b : Breakdown} {e : Fault} (halted : haltCause? b = some e) :
  ∃ h, b = .halt h ∧ h.cause = e
  := by
  cases b with
  | halt h => exact ⟨h, rfl, Option.some.inj halted⟩
  | fault f => cases halted
  | endlessWait => cases halted

/-- A program that returns without a call, beside a host with a plain display. -/
def returning : System where
  cpu := (Processor.idle (.ofList [0])).booted [0x00, 0xee]
  host :=
    { renderer := Renderer.resize 64 32 (.plain (.ofScale Display.defaultScale))
      keyboard := .ofKeymap .headless
        ⟨[120, 49, 50, 51, 113, 119, 101, 97, 115, 100, 122, 99, 52, 114, 102, 118]⟩
      buzzer := .silent
      desktop := none
      lastBreakdown := none }

/-- A run in which the processor makes its moves before the host. -/
def alone (s : System) : HostRun where
  system := s
  limit := none
  events := List.replicate 3 (.move .cpu) ++ List.replicate 4 (.move .host)

theorem inTurn_alone {s : System} (fresh : s.host.lastBreakdown = none)
    (ended : (alone s).final.hostFinished = true)
    (ended' : (alone (alone s).final.system).final.hostFinished = true) :
  InTurn none [alone s, alone (alone s).final.system]
  := ⟨fresh, ended, rfl, ended', trivial⟩

/-- The first of two runs halts. The processor was asked to stop then, so it makes no tick in the
second one and ends quietly. -/
theorem alone_twice :
  let first := alone returning
  let second := alone first.final.system
  InTurn none [first, second] ∧ second.final.hostMove = .finished none ∧
    (∃ h, first.result = .error (.halt h) ∧ h.cause = .stackUnderflow ∧
      latestBreakdown none [first] = some (.halt h)) ∧
    second.result = .ok ()
  := by
  intro first second
  have run : first.final.hostFinished = true ∧ second.final.hostFinished = true ∧
      second.final.hostMove = .finished none ∧
      first.final.cpuMove.breakdown?.bind haltCause? = some .stackUnderflow ∧
      second.final.cpuMove.breakdown? = none := by decide +kernel
  obtain ⟨ended, ended', served, halted, quiet⟩ := run
  obtain ⟨b, learned, halts⟩ := Option.bind_eq_some_iff.mp halted
  obtain ⟨h, rfl, cause⟩ := exists_halt halts
  refine ⟨inTurn_alone rfl ended ended', served, ⟨h, ?_, cause, ?_⟩, ?_⟩
  · rw [result, learned]
  · rw [latestBreakdown_singleton, learned]
  · rw [result_eq_ok_iff, quiet]

/-- A host that learned of a halt passes it on again after a run that ended quietly. -/
theorem outcome_in_turn_again :
  let first := alone returning
  let second := alone first.final.system
  ∃ h, first.result = .error (.halt h) ∧ second.result = .ok () ∧
    second.final.ending? = some (.broken (.halt h))
  := by
  intro first second
  obtain ⟨turn, served, ⟨h, halted, -, known⟩, quiet⟩ := alone_twice
  have split : InTurn none ([first] ++ second :: []) := turn
  use h, halted, quiet
  rcases (outcome_in_turn split).2 with ⟨e, failed, -⟩ | ⟨-, ending, -⟩
  · cases served.symm.trans failed
  · rw [ending, quiet, known]
    rfl

/-- Not every run tells how its own processor ended. -/
theorem outcome_not_own :
  ¬∀ (before after : List HostRun) (r : HostRun), InTurn none (before ++ r :: after) →
    r.final.hostMove = .finished none → r.final.ending? = some (endingOf r.result none)
  := by
  intro own
  obtain ⟨turn, served, ⟨h, -, -, known⟩, quiet⟩ := alone_twice
  have told := own [_] [] _ turn served
  have knows := (@InTurn.begins none [_] [] _ turn).1
  rw [ending_eq served, knows, known, quiet] at told
  cases told

end HostRun

end Chip8
