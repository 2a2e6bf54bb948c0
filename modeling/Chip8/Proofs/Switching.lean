import Chip8.Proofs.Closing

/-!
# Switching the buzzer

Three flags tell whether the buzzer is on: the processor's wish, the slot through which the host
learns of it, and the state of the buzzer itself. Wishes that repeat the last one are not put into
the slot, a wish that was not seen is replaced by the next, and the buzzer is not switched to the
state in which it is. However the calls of the processor and the refreshes of the host are
interleaved, the flags agree (`System.Tuned`): a fresh slot holds the wish, and otherwise the
buzzer has the state that is wished for. A buzzer that sounds starts and stops its sample in turn
(`Buzzer.turns`).
-/

namespace Chip8

/-! ### The buzzer -/

namespace Buzzer

/-- The first `n` calls of a row in which the sample is started and stopped in turn. -/
def turns (n : Nat) : List MixerCall :=
  (List.range n).map fun k => if k % 2 = 0 then .play (-1) else .stop

/-- Whether the sample plays after calls on the mixer. -/
def plays (calls : List MixerCall) : Bool :=
  calls.foldl
    (fun on call =>
      match call with
      | .play _ => true
      | .stop => false
      | _ => on)
    false

theorem alternates (n : Nat) :
  n % 2 = 0 ∧ (n + 1) % 2 = 1 ∨ n % 2 = 1 ∧ (n + 1) % 2 = 0
  := by omega

theorem turns_succ (n : Nat) :
  turns (n + 1) = turns n ++ [if n % 2 = 0 then .play (-1) else .stop]
  := by rw [turns, List.range_succ, List.map_append, List.map_singleton, turns]

/-- The buzzer sounds, its sample was started and stopped in turn since it was loaded, and it plays
exactly while the buzzer is on. -/
structure InTurn (b : Buzzer) : Prop where
  audible : b.audible = true
  calls : ∃ n, b.calls = sounding.calls ++ turns n ∧ b.enabled = (n % 2 == 1)

theorem inTurn_sounding : sounding.InTurn where
  audible := rfl
  calls := ⟨0, rfl, rfl⟩

/-- A buzzer that is switched to the state in which it is makes no call. -/
theorem switch_same (b : Buzzer) :
  b.switch b.enabled = b
  := by
  obtain ⟨audible, enabled, calls⟩ := b
  cases enabled <;> rfl

/-- A buzzer that sounds and is switched to its other state makes one call. -/
theorem switch_other {b : Buzzer} (audible : b.audible = true) :
  b.switch (!b.enabled) =
    { b with
      enabled := !b.enabled
      calls := b.calls ++ [if b.enabled then .stop else .play (-1)] }
  := by
  obtain ⟨a, enabled, calls⟩ := b
  obtain rfl : a = true := audible
  cases enabled <;> rfl

theorem InTurn.switch {b : Buzzer} (h : b.InTurn) (on : Bool) :
  (b.switch on).InTurn
  := by
  by_cases same : on = b.enabled
  · rw [same, switch_same]
    exact h
  · obtain ⟨audible, n, calls, enabled⟩ := h
    rw [Bool.eq_not_of_ne same, switch_other audible]
    use audible, n + 1
    rw [calls, turns_succ, enabled, List.append_assoc]
    rcases alternates n with ⟨even, odd⟩ | ⟨odd, even⟩
    · rw [even, odd]
      exact ⟨rfl, rfl⟩
    · rw [odd, even]
      exact ⟨rfl, rfl⟩

theorem plays_turns (n : Nat) :
  plays (sounding.calls ++ turns n) = (n % 2 == 1)
  := by
  induction n with
  | zero => rfl
  | succ n ih =>
      rw [turns_succ, ← List.append_assoc, plays, List.foldl_concat]
      rcases alternates n with ⟨even, odd⟩ | ⟨odd, even⟩
      · rw [even, odd]
        rfl
      · rw [odd, even]
        rfl

theorem InTurn.plays {b : Buzzer} (h : b.InTurn) :
  Buzzer.plays b.calls = b.enabled
  := by
  obtain ⟨-, n, calls, enabled⟩ := h
  rw [calls, plays_turns, enabled]

end Buzzer

/-! ### The channel -/

/-- A call of the processor, or a step of the host. -/
inductive BuzzerEvent where
  /-- The processor wants the buzzer on. -/
  | play
  /-- The processor wants the buzzer off. -/
  | stop
  /-- The host asks what the processor wants, and switches the buzzer if it learns something. -/
  | serve
deriving DecidableEq

namespace System

/-- Whether the processor wants the buzzer on. -/
def wish (s : System) : Bool := s.cpu.buzzerChannel.playing

/-- The system after a call or a step. -/
def buzz (s : System) : BuzzerEvent → System
  | .play => { s with cpu := { s.cpu with buzzerChannel := s.cpu.buzzerChannel.play } }
  | .stop => { s with cpu := s.cpu.silence }
  | .serve => left (Host.switchBuzzer s)

/-- The system after calls and steps, the first one first. -/
def buzzAlong (s : System) (es : List BuzzerEvent) : System := es.foldl buzz s

theorem buzzAlong_concat (s : System) (es : List BuzzerEvent) (e : BuzzerEvent) :
  s.buzzAlong (es ++ [e]) = (s.buzzAlong es).buzz e
  := List.foldl_concat buzz s e es

/-- What the host learns when it asks what the processor wants. -/
def learned? (s : System) : Option Bool := s.cpu.buzzerChannel.poll.1

/-- The slot holds a wish that the host did not learn of. -/
def fresh (s : System) : Bool := s.cpu.buzzerChannel.slot.fresh

/-- A fresh slot holds the wish, and otherwise the buzzer has the state that is wished for. -/
def Tuned (s : System) : Prop :=
  s.fresh = true ∧ s.cpu.buzzerChannel.slot.value = some s.wish ∨
    s.fresh = false ∧ s.host.buzzer.enabled = s.wish

/-! ### Calls of the processor -/

/-- The system with another wish, which is put into the slot. -/
def wishing (s : System) (on : Bool) : System :=
  { s with cpu := { s.cpu with buzzerChannel := ⟨on, .holding on⟩ } }

/-- A call repeats the wish and changes nothing, or it puts the other wish into the slot. -/
theorem buzz_call (s : System) {e : BuzzerEvent} (call : e ≠ .serve) :
  s.buzz e = s ∨ s.buzz e = s.wishing !s.wish
  := by
  cases e with
  | play =>
      cases on : s.wish with
      | true =>
          left
          have same : s.cpu.buzzerChannel.play = s.cpu.buzzerChannel := if_pos on
          rw [buzz, same]
      | false =>
          right
          have put : s.cpu.buzzerChannel.play = ⟨true, .holding true⟩ :=
            if_neg (Bool.eq_false_iff.mp on)
          rw [buzz, put]
          rfl
  | stop =>
      cases on : s.wish with
      | true =>
          right
          have put : s.cpu.buzzerChannel.stop = ⟨false, .holding false⟩ := if_pos on
          rw [buzz, Processor.silence, put]
          rfl
      | false =>
          left
          have same : s.cpu.buzzerChannel.stop = s.cpu.buzzerChannel :=
            if_neg (Bool.eq_false_iff.mp on)
          rw [buzz, Processor.silence, same]
  | serve => exact absurd rfl call

/-- After a call the slot is fresh if it was, or if the call changed the wish. -/
theorem fresh_call (s : System) {e : BuzzerEvent} (call : e ≠ .serve) :
  (s.buzz e).fresh = false ↔ s.fresh = false ∧ (s.buzz e).wish = s.wish
  := by
  rcases s.buzz_call call with same | put
  · rw [same]
    exact (and_iff_left rfl).symm
  · rw [put]
    constructor
    · rintro ⟨⟩
    · rintro ⟨-, kept⟩
      exact absurd kept (by simp [wishing, wish])

theorem Tuned.call {s : System} (h : s.Tuned) {e : BuzzerEvent} (call : e ≠ .serve) :
  (s.buzz e).Tuned
  := by
  rcases s.buzz_call call with same | put
  · rw [same]
    exact h
  · rw [put]
    left
    exact ⟨rfl, rfl⟩

/-! ### Steps of the host -/

/-- The host learns the wish if the slot is fresh, and nothing otherwise. -/
theorem Tuned.learned?_eq {s : System} (h : s.Tuned) :
  s.learned? = if s.fresh then some s.wish else none
  := by
  have polled : s.learned? =
      if s.fresh then s.cpu.buzzerChannel.slot.value else none := by
    show s.cpu.buzzerChannel.slot.take.1 = _
    rw [Latest.take, fresh]
    split <;> rfl
  rcases h with ⟨news, holds⟩ | ⟨old, -⟩
  · rw [polled, news, if_pos rfl, if_pos rfl, holds]
  · rw [polled, old]
    rfl

/-- In its step the host switches the buzzer if it learns something. -/
theorem buzzer_serve (s : System) :
  (s.buzz .serve).host.buzzer = s.learned?.elim s.host.buzzer s.host.buzzer.switch
  := by
  show (left (Host.switchBuzzer s)).host.buzzer = _
  rcases polled : s.cpu.buzzerChannel.poll with ⟨state, channel⟩
  rw [Host.switchBuzzer, modify_apply, learned?, polled]
  cases state with
  | none => rfl
  | some on => rfl

/-- A step of the host brings the buzzer to the state that is wished for, and empties the slot. -/
theorem Tuned.serve {s : System} (h : s.Tuned) :
  (s.buzz .serve).host.buzzer.enabled = s.wish ∧ (s.buzz .serve).wish = s.wish ∧
    (s.buzz .serve).fresh = false
  := by
  have emptied : (s.buzz .serve).fresh = false := by
    show s.cpu.buzzerChannel.slot.take.2.fresh = false
    rw [Latest.take]
    split
    · rfl
    · next old => exact Bool.eq_false_iff.mpr old
  rw [buzzer_serve, h.learned?_eq]
  rcases h with ⟨news, -⟩ | ⟨old, agrees⟩
  · rw [news]
    exact ⟨rfl, rfl, emptied⟩
  · rw [old]
    exact ⟨agrees, rfl, emptied⟩

theorem Tuned.buzz {s : System} (h : s.Tuned) (e : BuzzerEvent) :
  (s.buzz e).Tuned
  := by
  by_cases call : e = .serve
  · subst call
    obtain ⟨state, same, emptied⟩ := h.serve
    right
    exact ⟨emptied, state.trans same.symm⟩
  · apply h.call call

theorem Tuned.along {s : System} (h : s.Tuned) (es : List BuzzerEvent) :
  (s.buzzAlong es).Tuned
  := by
  induction es using List.reverseRecOn with
  | nil => exact h
  | append_singleton es e ih =>
      rw [buzzAlong_concat]
      apply ih.buzz

/-! ### News -/

/-- None of the events changes what the processor wants. -/
def KeepsWish (s : System) (es : List BuzzerEvent) : Prop :=
  ∀ before e, before ++ [e] <+: es →
    (s.buzzAlong (before ++ [e])).wish = (s.buzzAlong before).wish

theorem keepsWish_concat {s : System} {es : List BuzzerEvent} {e : BuzzerEvent} :
  s.KeepsWish (es ++ [e]) ↔
    s.KeepsWish es ∧ (s.buzzAlong (es ++ [e])).wish = (s.buzzAlong es).wish
  := by
  constructor
  · intro keeps
    constructor
    · intro before e' begins
      apply keeps before e' (begins.trans (List.prefix_append es [e]))
    · apply keeps es e (List.prefix_refl _)
  · rintro ⟨keeps, last⟩ before e' begins
    rcases List.prefix_concat_iff.mp begins with same | begins
    · obtain ⟨rfl, ends⟩ := List.append_inj' same rfl
      obtain rfl := List.singleton_inj.mp ends
      exact last
    · apply keeps before e' begins

/-- Calls leave a slot empty exactly if none of them changes what the processor wants. -/
theorem stale_along {s : System} (old : s.fresh = false) {es : List BuzzerEvent}
    (calls : .serve ∉ es) :
  (s.buzzAlong es).fresh = false ↔ s.KeepsWish es
  := by
  induction es using List.reverseRecOn with
  | nil =>
      apply iff_of_true old
      intro before e begins
      simp at begins
  | append_singleton es e ih =>
      obtain ⟨earlier, last⟩ := not_or.mp (mt List.mem_append.mpr calls)
      have call : e ≠ .serve := fun same => last (List.mem_singleton.mpr same.symm)
      rw [keepsWish_concat, buzzAlong_concat, fresh_call _ call, ih earlier]

/-- A fresh slot remains fresh until the host asks. -/
theorem fresh_along {s : System} (news : s.fresh = true) {es : List BuzzerEvent}
    (calls : .serve ∉ es) :
  (s.buzzAlong es).fresh = true
  := by
  induction es using List.reverseRecOn with
  | nil => exact news
  | append_singleton es e ih =>
      obtain ⟨earlier, last⟩ := not_or.mp (mt List.mem_append.mpr calls)
      have call : e ≠ .serve := fun same => last (List.mem_singleton.mpr same.symm)
      rw [buzzAlong_concat, ← Bool.not_eq_false, fresh_call _ call, ih earlier]
      rintro ⟨⟨⟩, -⟩

/-! ### The sample -/

theorem inTurn_along {s : System} (h : s.host.buzzer.InTurn) (es : List BuzzerEvent) :
  (s.buzzAlong es).host.buzzer.InTurn
  := by
  induction es using List.reverseRecOn with
  | nil => exact h
  | append_singleton es e ih =>
      rw [buzzAlong_concat]
      cases e with
      | play => exact ih
      | stop => exact ih
      | serve =>
          rw [buzzer_serve]
          cases (s.buzzAlong es).learned? with
          | none => exact ih
          | some on => apply ih.switch

/-- At every moment the slot is fresh and holds what the processor wants, or the buzzer has this
state, which it has after every step of the host. After its first step, the host learns something
exactly if the wish was changed since it last asked. A buzzer that sounds starts and stops its
sample in turn, plays it while it is on, and does not start it again. -/
theorem buzzer_tuned {s : System} (initial : s.cpu.buzzerChannel = .initial)
    (es : List BuzzerEvent) :
  let t := s.buzzAlong es
  let slot := t.cpu.buzzerChannel.slot
  let buzzer := t.host.buzzer
  (slot.fresh = true ∧ slot.value = some t.cpu.buzzerChannel.playing ∨
      slot.fresh = false ∧ buzzer.enabled = t.cpu.buzzerChannel.playing) ∧
    ((t.buzz .serve).host.buzzer.enabled = (t.buzz .serve).cpu.buzzerChannel.playing ∧
      (t.buzz .serve).cpu.buzzerChannel.playing = t.cpu.buzzerChannel.playing) ∧
    (∀ before since, es = before ++ .serve :: since → .serve ∉ since →
      (t.cpu.buzzerChannel.poll.1 = none ↔ (s.buzzAlong (before ++ [.serve])).KeepsWish since)) ∧
    (.serve ∉ es → t.cpu.buzzerChannel.poll.1 = some t.cpu.buzzerChannel.playing) ∧
    (s.host.buzzer = .sounding →
      (∃ n, buzzer.calls = Buzzer.sounding.calls ++ Buzzer.turns n) ∧
        Buzzer.plays buzzer.calls = buzzer.enabled ∧
        (buzzer.enabled = true → buzzer.switch true = buzzer))
  := by
  intro t slot buzzer
  have news : s.fresh = true := by
    rw [fresh, initial]
    rfl
  have start : s.Tuned := by
    left
    use news
    rw [wish, initial]
    rfl
  have tuned : t.Tuned := start.along es
  constructor
  · exact tuned
  constructor
  · obtain ⟨state, same, -⟩ := tuned.serve
    exact ⟨state.trans same.symm, same⟩
  constructor
  · rintro before since rfl calls
    have split : t = (s.buzzAlong (before ++ [.serve])).buzzAlong since := by
      rw [buzzAlong_concat]
      exact List.foldl_append
    have emptied : (s.buzzAlong (before ++ [.serve])).fresh = false := by
      rw [buzzAlong_concat]
      exact (start.along before).serve.2.2
    rw [← stale_along emptied calls, ← split]
    show t.learned? = none ↔ t.fresh = false
    rw [tuned.learned?_eq]
    cases t.fresh with
    | true => exact iff_of_false (Option.some_ne_none _) Bool.noConfusion
    | false => exact iff_of_true rfl rfl
  constructor
  · intro calls
    show t.learned? = some t.wish
    rw [tuned.learned?_eq, fresh_along news calls]
    rfl
  · intro sounds
    have loaded : s.host.buzzer.InTurn := by
      rw [sounds]
      apply Buzzer.inTurn_sounding
    have inTurn : buzzer.InTurn := inTurn_along loaded es
    obtain ⟨n, calls, -⟩ := inTurn.calls
    use ⟨n, calls⟩, inTurn.plays
    intro on
    rw [← on, buzzer.switch_same]

/-- A processor that draws a digit again and again, and a host whose buzzer sounds. -/
def soundingBeside : System :=
  { Joint.blinkingBeside with
    host := { Joint.blinkingBeside.host with buzzer := .sounding } }

/-- Between the last two steps of the host the buzzer is switched off and on again. -/
def offAndOn : List BuzzerEvent :=
  [.serve, .play, .play, .stop, .play, .serve, .stop, .play, .serve]

/-- The host learns once more that the buzzer has to be on, and does not start the sample again. -/
theorem buzzer_tuned_offAndOn :
  let t := soundingBeside.buzzAlong offAndOn
  t.host.buzzer.enabled = true ∧ t.host.buzzer.calls = Buzzer.sounding.calls ++ [.play (-1)] ∧
    Buzzer.plays t.host.buzzer.calls = true ∧
    (soundingBeside.buzzAlong offAndOn.dropLast).cpu.buzzerChannel.poll.1 = some true ∧
    t.cpu.buzzerChannel.poll.1 = none
  := by
  intro t
  have initial : soundingBeside.cpu.buzzerChannel = .initial := by decide +kernel
  have ended : t.host.buzzer.enabled = true ∧
      t.host.buzzer.calls = Buzzer.sounding.calls ++ [.play (-1)] ∧
      (soundingBeside.buzzAlong offAndOn.dropLast).cpu.buzzerChannel.poll.1 = some true := by
    decide +kernel
  obtain ⟨on, calls, learned⟩ := ended
  obtain ⟨-, -, news, -, sounds⟩ := buzzer_tuned initial offAndOn
  obtain ⟨-, plays, -⟩ := sounds rfl
  have quiet := news offAndOn.dropLast [] rfl List.not_mem_nil
  have kept : (soundingBeside.buzzAlong (offAndOn.dropLast ++ [.serve])).KeepsWish [] := by
    intro before e begins
    simp at begins
  use on, calls, plays.trans on, learned
  exact quiet.mpr kept

end System

end Chip8
