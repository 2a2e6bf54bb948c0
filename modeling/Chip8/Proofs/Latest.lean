import Chip8.Latest
import Mathlib.Data.List.Basic
import Mathlib.Data.List.Induction

/-!
# Delivery through a slot

A call on a slot has it for itself until the call returns. So whoever shares the slot, the calls are
made one after the other, and every interleaving of them is a row of calls. A take returns the
newest of all values if a value was put since the take before it, and nothing otherwise
(`Latest.reply?_eq`): the slot holds the newest value, and it is fresh exactly while there are
unread values (`Latest.Holds`). A slot does not look at its values (`Latest.along_map`), so they may
be numbered as they are put, and then the numbers that are returned increase.
-/

namespace Chip8

variable {α β : Type}

/-- A call on a slot. -/
inductive SlotCall (α : Type) where
  /-- Puts a value into the slot. -/
  | put (a : α)
  /-- Takes the newest value out of the slot, if it is fresh. -/
  | take
deriving DecidableEq

namespace SlotCall

/-- The value that a call puts into the slot. -/
def value? : SlotCall α → Option α
  | .put a => some a
  | .take => none

/-- The call with another value in place of the one that it puts. -/
def map (f : α → β) : SlotCall α → SlotCall β
  | .put a => .put (f a)
  | .take => .take

/-- The calls with the values that they put numbered from `n` on. -/
def numbered (n : Nat) : List (SlotCall α) → List (SlotCall (α × Nat))
  | [] => []
  | .put a :: calls => .put (a, n) :: numbered (n + 1) calls
  | .take :: calls => .take :: numbered n calls

theorem map_numbered (n : Nat) (calls : List (SlotCall α)) :
  (numbered n calls).map (map Prod.fst) = calls
  := by
  induction calls generalizing n with
  | nil => rfl
  | cons call calls ih =>
      cases call with
      | put a => exact congrArg (.put a :: ·) (ih (n + 1))
      | take => exact congrArg (.take :: ·) (ih n)

theorem filterMap_numbered (n : Nat) (calls : List (SlotCall α)) :
  (numbered n calls).filterMap value? = (calls.filterMap value?).zipIdx n
  := by
  induction calls generalizing n with
  | nil => rfl
  | cons call calls ih =>
      cases call with
      | put a => exact congrArg ((a, n) :: ·) (ih (n + 1))
      | take => exact ih n

end SlotCall

namespace Latest

/-! ### Calls -/

/-- The slot that is built with a first value, or without one. -/
def ofFirst : Option α → Latest α
  | none => empty
  | some a => holding a

/-- The slot after a call. -/
def after (s : Latest α) : SlotCall α → Latest α
  | .put a => s.put a
  | .take => s.take.2

/-- The slot after calls, the first one first. -/
def along (s : Latest α) (calls : List (SlotCall α)) : Latest α := calls.foldl after s

/-- What a take returns that is made after calls on a slot. -/
def reply? (first : Option α) (calls : List (SlotCall α)) : Option α :=
  ((ofFirst first).along calls).take.1

/-- The values of a slot in their order, beginning with its first one. -/
def values (first : Option α) (calls : List (SlotCall α)) : List α :=
  first.toList ++ calls.filterMap SlotCall.value?

/-- The values of a slot since the last take. -/
def unread (first : Option α) (calls : List (SlotCall α)) : List α :=
  calls.foldl
    (fun unread call =>
      match call with
      | .put a => unread ++ [a]
      | .take => [])
    first.toList

theorem values_append (first : Option α) (calls more : List (SlotCall α)) :
  values first (calls ++ more) = values first calls ++ values none more
  := by
  simp only [values, List.filterMap_append, List.append_assoc, Option.toList_none, List.nil_append]

theorem unread_put (first : Option α) (calls : List (SlotCall α)) (a : α) :
  unread first (calls ++ [.put a]) = unread first calls ++ [a]
  := List.foldl_concat _ _ _ _

theorem unread_take (first : Option α) (calls more : List (SlotCall α)) :
  unread first (calls ++ .take :: more) = unread none more
  := List.foldl_append

/-- The unread values are the last ones. -/
theorem unread_suffix (first : Option α) (calls : List (SlotCall α)) :
  unread first calls <:+ values first calls
  := by
  induction calls using List.reverseRecOn with
  | nil => exact ⟨[], (List.append_nil _).symm⟩
  | append_singleton calls call ih =>
      rw [values_append]
      cases call with
      | put a =>
          rw [unread_put]
          obtain ⟨read, all⟩ := ih
          exact ⟨read, by rw [← List.append_assoc, all]; rfl⟩
      | take =>
          rw [unread_take]
          exact List.nil_suffix

/-! ### What a slot holds -/

/-- The slot holds the newest value, and it is fresh as long as there are unread values. -/
structure Holds (first : Option α) (calls : List (SlotCall α)) (s : Latest α) : Prop where
  value : s.value = (values first calls).getLast?
  fresh : s.fresh = true ↔ unread first calls ≠ []

theorem holds_ofFirst (first : Option α) :
  Holds first [] (ofFirst first)
  := by
  cases first with
  | none => exact ⟨rfl, by simp [ofFirst, empty, unread]⟩
  | some a => exact ⟨rfl, by simp [ofFirst, holding, unread]⟩

/-- A take leaves the value, which is not fresh any longer. -/
theorem take_eq (s : Latest α) :
  s.take = (if s.fresh then s.value else none, { s with fresh := false })
  := by
  obtain ⟨value, fresh⟩ := s
  cases fresh with
  | true => rfl
  | false => rfl

theorem Holds.after {first : Option α} {calls : List (SlotCall α)} {s : Latest α}
    (h : Holds first calls s) (call : SlotCall α) :
  Holds first (calls ++ [call]) (s.after call)
  := by
  cases call with
  | put a =>
      constructor
      · show some a = _
        rw [values_append]
        exact List.getLast?_concat.symm
      · rw [unread_put]
        simp [Latest.after, put]
  | take =>
      constructor
      · show s.take.2.value = _
        rw [take_eq, values_append]
        exact h.value.trans (congrArg List.getLast? (List.append_nil _).symm)
      · rw [unread_take]
        simp [Latest.after, take_eq, unread]

theorem holds_along (first : Option α) (calls : List (SlotCall α)) :
  Holds first calls ((ofFirst first).along calls)
  := by
  induction calls using List.reverseRecOn with
  | nil => apply holds_ofFirst
  | append_singleton calls call ih =>
      rw [along, List.foldl_concat]
      apply ih.after

/-- A take returns the newest value if there are unread values, and nothing otherwise. -/
theorem reply?_eq (first : Option α) (calls : List (SlotCall α)) :
  reply? first calls = if unread first calls = [] then none else (values first calls).getLast?
  := by
  obtain ⟨value, fresh⟩ := holds_along first calls
  rw [reply?, take_eq, value]
  by_cases read : unread first calls = []
  · have stale : ((ofFirst first).along calls).fresh = false :=
      Bool.eq_false_iff.mpr (fun f => fresh.mp f read)
    rw [if_pos read, stale]
    rfl
  · rw [if_neg read, fresh.mpr read]
    rfl

/-! ### Numbered values -/

/-- The slot with another value in place of its own. -/
def map (f : α → β) (s : Latest α) : Latest β := ⟨s.value.map f, s.fresh⟩

theorem take_map (f : α → β) (s : Latest α) :
  (s.map f).take = (s.take.1.map f, s.take.2.map f)
  := by
  obtain ⟨value, fresh⟩ := s
  cases fresh with
  | true => rfl
  | false => rfl

/-- A slot does not look at its values. -/
theorem along_map (f : α → β) (s : Latest α) (calls : List (SlotCall α)) :
  (s.map f).along (calls.map (SlotCall.map f)) = (s.along calls).map f
  := by
  rw [along, List.foldl_map]
  apply List.foldl_hom (map f)
  intro s call
  cases call with
  | put a => rfl
  | take => exact congrArg Prod.snd (take_map f s)

theorem reply?_map (f : α → β) (first : Option α) (calls : List (SlotCall α)) :
  reply? (first.map f) (calls.map (SlotCall.map f)) = (reply? first calls).map f
  := by
  have built : ofFirst (first.map f) = (ofFirst first).map f := by
    cases first with
    | none => rfl
    | some a => rfl
  rw [reply?, built, along_map, take_map]
  rfl

/-- What a take returns if the values are numbered in their order from zero on. -/
def numberedReply? (first : Option α) (calls : List (SlotCall α)) : Option (α × Nat) :=
  reply? (first.map (·, 0)) (SlotCall.numbered first.toList.length calls)

/-- The numbers do not change what is returned. -/
theorem numberedReply?_fst (first : Option α) (calls : List (SlotCall α)) :
  (numberedReply? first calls).map Prod.fst = reply? first calls
  := by
  rw [numberedReply?, ← reply?_map, SlotCall.map_numbered]
  cases first with
  | none => rfl
  | some a => rfl

theorem values_numbered (first : Option α) (calls : List (SlotCall α)) :
  values (first.map (·, 0)) (SlotCall.numbered first.toList.length calls) =
    (values first calls).zipIdx
  := by
  rw [values, values, SlotCall.filterMap_numbered, List.zipIdx_append]
  cases first with
  | none => rfl
  | some a => rfl

/-- The number that a take returns is that of the last value put before it. -/
theorem number_eq {first : Option α} {calls : List (SlotCall α)} {a : α} {n : Nat}
    (replied : numberedReply? first calls = some (a, n)) :
  n + 1 = (values first calls).length ∧ (values first calls)[n]? = some a
  := by
  rw [numberedReply?, reply?_eq, values_numbered] at replied
  obtain ⟨-, last⟩ := Option.ite_none_left_eq_some.mp replied
  rw [List.getLast?_eq_getElem?, List.getElem?_zipIdx, List.length_zipIdx] at last
  obtain ⟨v, held, same⟩ := Option.map_eq_some_iff.mp last
  obtain ⟨inside, -⟩ := List.getElem?_eq_some_iff.mp held
  obtain ⟨rfl, rfl⟩ := Prod.mk.inj same
  constructor
  · omega
  · rw [Nat.zero_add]
    exact held

/-- A later take returns a value with a greater number. -/
theorem number_lt {first : Option α} {calls more : List (SlotCall α)} {a b : α} {n k : Nat}
    (replied : numberedReply? first calls = some (a, n))
    (later : numberedReply? first (calls ++ .take :: more) = some (b, k)) :
  n < k
  := by
  have between : values none more ≠ [] := by
    have returned : reply? first (calls ++ .take :: more) = some b := by
      rw [← numberedReply?_fst, later, Option.map_some]
    rw [reply?_eq, unread_take] at returned
    obtain ⟨fresh, -⟩ := Option.ite_none_left_eq_some.mp returned
    intro none_put
    apply fresh
    apply List.suffix_nil.mp
    rw [← none_put]
    apply unread_suffix
  have longer :
      (values first (calls ++ .take :: more)).length =
        (values first calls).length + (values none more).length := by
    rw [values_append, List.length_append]
    rfl
  have put := List.length_pos_iff.mpr between
  have := (number_eq replied).1
  have := (number_eq later).1
  omega

/-- A slot is a channel for the newest value. Whatever calls were made on it before, in whichever
order, a take returns the newest value if any is unread, and nothing otherwise. If the values are
numbered in their order, beginning with the one that the slot is built with, a take returns the
value that has the number which is returned with it, and a later take returns a greater number. A
take right after a put returns what was put. -/
theorem takes_newest (first : Option α) (calls : List (SlotCall α)) :
  reply? first calls =
      (if unread first calls = [] then none else (values first calls).getLast?) ∧
    (numberedReply? first calls).map Prod.fst = reply? first calls ∧
    (∀ a n, numberedReply? first calls = some (a, n) → (values first calls)[n]? = some a) ∧
    (∀ more a b n k, numberedReply? first calls = some (a, n) →
      numberedReply? first (calls ++ .take :: more) = some (b, k) → n < k) ∧
    ∀ a, reply? first (calls ++ [.put a]) = some a
  := by
  constructor
  · apply reply?_eq
  constructor
  · apply numberedReply?_fst
  constructor
  · intro a n replied
    exact (number_eq replied).2
  constructor
  · intro more a b n k replied later
    exact number_lt replied later
  · intro a
    rw [reply?_eq, unread_put, values_append]
    rw [if_neg (List.concat_ne_nil a (unread first calls))]
    exact List.getLast?_concat

/-- A slot that is built with the value `false` delivers it, then the last one of two values that
are put, and then nothing. -/
theorem takes_newest_of_false :
  let before : List (SlotCall Bool) := []
  let calls := [.put true, .put false]
  numberedReply? (some false) before = some (false, 0) ∧
    numberedReply? (some false) (before ++ .take :: calls) = some (false, 2) ∧
    (values (some false) (before ++ .take :: calls))[2]? = some false ∧
    0 < 2 ∧
    reply? (some false) (before ++ .take :: calls ++ [.take]) = none
  := by
  intro before calls
  have first : numberedReply? (some false) before = some (false, 0) := by decide
  have later : numberedReply? (some false) (before ++ .take :: calls) = some (false, 2) := by
    decide
  obtain ⟨-, -, -, increasing, -⟩ := takes_newest (some false) before
  obtain ⟨-, -, numbered, -, -⟩ := takes_newest (some false) (before ++ .take :: calls)
  obtain ⟨newest, -, -, -, -⟩ := takes_newest (some false) (before ++ .take :: calls ++ [.take])
  refine ⟨first, later, ?_, ?_, ?_⟩
  · exact numbered false 2 later
  · exact increasing calls false false 0 2 first later
  · rw [newest]
    decide

end Latest
end Chip8
