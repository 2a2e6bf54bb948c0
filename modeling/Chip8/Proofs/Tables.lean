import Chip8.Proofs.Dispatch
import Mathlib.Data.List.Nodup

/-!
# Which lists are tables

A list of entries is a table exactly if no pattern has bits outside its mask and no two entries have
a word in common (`Table.ofList_exact`). Overlapping patterns are compared bit by bit, and a word
that two matchers have in common is put together from the bits which the one and the other of them
test (`Matcher.common`). The look-up finds the one entry that has a word, so it does not depend on
the order of the list. All of this holds for masks and patterns of any size and of either sign.
-/

namespace Chip8

/-! ### Matchers read bit by bit -/

/-- An integer is zero if it has no bits. -/
theorem Bits.eq_zero_iff (n : Int) :
  n = 0 ↔ ∀ k, test n k = false
  := by
  have zero : ∀ k, test 0 k = false := Nat.zero_testBit
  constructor
  · rintro rfl
    apply zero
  · intro none
    apply eq_of_test_eq
    intro k
    rw [none, zero]

namespace Matcher

/-- The pattern of a matcher has bits only at the places of its mask. -/
def Confined (m : Matcher) : Prop :=
  ∀ k, Bits.test m.pattern k = true → Bits.test m.mask k = true

/-- Two matchers have a word in common. -/
def SharesWord (a b : Matcher) : Prop := ∃ word, a.accepts word = true ∧ b.accepts word = true

variable {a b : Matcher}

theorem SharesWord.symm (h : a.SharesWord b) :
  b.SharesWord a
  := by
  obtain ⟨word, ha, hb⟩ := h
  use word, hb

theorem proper_iff (m : Matcher) :
  m.proper = true ↔ m.Confined
  := by
  rw [proper, beq_iff_eq, Bits.eq_zero_iff]
  apply forall_congr'
  intro k
  rw [Bits.test_and, Bits.test_not]
  cases Bits.test m.pattern k <;> cases Bits.test m.mask k <;> decide

/-- A word belongs to a matcher if it has the bits of the pattern at the places of the mask, and the
pattern has no others. -/
theorem accepts_iff (m : Matcher) (word : Int) :
  m.accepts word = true ↔
    ∀ k, (Bits.test word k && Bits.test m.mask k) = Bits.test m.pattern k
  := by
  rw [accepts, beq_iff_eq]
  constructor
  · intro same k
    rw [← same, Bits.test_and]
  · intro same
    apply Bits.eq_of_test_eq
    intro k
    rw [Bits.test_and, same]

theorem overlaps_iff_test (a b : Matcher) :
  a.overlaps b = true ↔
    ∀ k, Bits.test a.mask k = true → Bits.test b.mask k = true →
      Bits.test a.pattern k = Bits.test b.pattern k
  := by
  rw [overlaps, beq_iff_eq, Bits.eq_zero_iff]
  apply forall_congr'
  intro k
  rw [Bits.test_and, Bits.test_and, Bits.test_xor]
  cases Bits.test a.mask k <;> cases Bits.test b.mask k <;> cases Bits.test a.pattern k <;>
    cases Bits.test b.pattern k <;> decide

/-- The word with the bits of the first pattern at the places of the first mask, and with those of
the second pattern elsewhere. -/
def common (a b : Matcher) : Int := Bits.xor a.pattern (Bits.and b.pattern (Bits.not a.mask))

theorem accepts_common_left (confined : a.Confined) :
  a.accepts (a.common b) = true
  := by
  rw [accepts_iff]
  intro k
  have inside := confined k
  rw [common, Bits.test_xor, Bits.test_and, Bits.test_not]
  revert inside
  cases Bits.test a.mask k <;> cases Bits.test a.pattern k <;> cases Bits.test b.pattern k <;>
    decide

theorem accepts_common_right (confined : a.Confined) (confined' : b.Confined)
    (agree : a.overlaps b = true) :
  b.accepts (a.common b) = true
  := by
  rw [accepts_iff]
  intro k
  have inside := confined k
  have inside' := confined' k
  have same := (overlaps_iff_test a b).mp agree k
  rw [common, Bits.test_xor, Bits.test_and, Bits.test_not]
  revert inside inside' same
  cases Bits.test a.mask k <;> cases Bits.test b.mask k <;> cases Bits.test a.pattern k <;>
    cases Bits.test b.pattern k <;> decide

/-- Matchers whose patterns are confined overlap exactly if they have a word in common. -/
theorem overlaps_iff (confined : a.Confined) (confined' : b.Confined) :
  a.overlaps b = true ↔ a.SharesWord b
  := by
  constructor
  · intro agree
    use a.common b, accepts_common_left confined, accepts_common_right confined confined' agree
  · rintro ⟨word, ha, hb⟩
    apply overlaps_of_accepts ha hb

/-- A matcher whose pattern is confined has a word. -/
theorem Confined.sharesWord_self (confined : a.Confined) :
  a.SharesWord a
  := by
  use a.common a, accepts_common_left confined, accepts_common_left confined

end Matcher

namespace Table

variable {α : Type}

/-! ### Building -/

/-- The entries of a list that can be a table: their patterns are confined, and no two of them have
a word in common. -/
structure Exclusive (es : List (Entry α)) : Prop where
  confined : ∀ e ∈ es, e.matcher.Confined
  apart : es.Pairwise fun a b => ¬a.matcher.SharesWord b.matcher

/-- An entry is added if its pattern is confined and it overlaps with no earlier entry. -/
theorem exists_add_eq_ok_iff (t : Table α) (new : Entry α) :
  (∃ t', t.add new = .ok t') ↔
    new.matcher.Confined ∧ ∀ e ∈ t.entries, new.matcher.overlaps e.matcher = false
  := by
  constructor
  · rintro ⟨t', added⟩
    constructor
    · rw [add] at added
      split at added
      · cases added
      · next proper =>
          rw [Bool.not_eq_true', Bool.not_eq_false] at proper
          apply (Matcher.proper_iff _).mp proper
    · apply (add_eq_ok added).1
  · rintro ⟨confined, free⟩
    have none : (t.entries.find? fun e => new.matcher.overlaps e.matcher) = none := by
      rw [List.find?_eq_none]
      intro e member
      rw [free e member]
      apply Bool.false_ne_true
    rw [add, (Matcher.proper_iff _).mpr confined, none]
    exact ⟨_, rfl⟩

/-- Entries can be added one after the other if their patterns are confined and none of them
overlaps with an earlier one. -/
theorem exists_foldlM_add_iff (es : List (Entry α)) (t : Table α) :
  (∃ t', es.foldlM add t = .ok t') ↔
    (∀ e ∈ es, e.matcher.Confined) ∧
      (∀ e ∈ t.entries, ∀ new ∈ es, new.matcher.overlaps e.matcher = false) ∧
      es.Pairwise fun a b => b.matcher.overlaps a.matcher = false
  := by
  induction es generalizing t with
  | nil => simp [pure, Except.pure]
  | cons new es ih =>
      rw [List.foldlM_cons, List.forall_mem_cons, List.pairwise_cons]
      have first := t.exists_add_eq_ok_iff new
      cases added : t.add new with
      | error conflict =>
          rw [added] at first
          constructor
          · rintro ⟨t', ⟨⟩⟩
          · rintro ⟨⟨confined, -⟩, free, -, -⟩
            obtain ⟨t', ⟨⟩⟩ :=
              first.mpr ⟨confined, fun e member => free e member new List.mem_cons_self⟩
      | ok u =>
          obtain ⟨confined, free⟩ := first.mp ⟨u, added⟩
          obtain ⟨-, rfl⟩ := add_eq_ok added
          apply (ih _).trans
          simp only [List.forall_mem_append, List.forall_mem_cons, List.not_mem_nil, false_implies,
            implies_true, and_true]
          constructor
          · rintro ⟨rest, ⟨earlier, here⟩, apart⟩
            exact ⟨⟨confined, rest⟩, fun e member => ⟨free e member, earlier e member⟩, here, apart⟩
          · rintro ⟨⟨-, rest⟩, earlier, here, apart⟩
            exact ⟨rest, ⟨fun e member => (earlier e member).2, here⟩, apart⟩

theorem exists_ofList_eq_ok_iff (es : List (Entry α)) :
  (∃ t, ofList es = .ok t) ↔ Exclusive es
  := by
  rw [ofList, exists_foldlM_add_iff]
  constructor
  · rintro ⟨confined, -, apart⟩
    use confined
    apply apart.imp
    rintro a b free ⟨word, aw, bw⟩
    rw [Matcher.overlaps_of_accepts bw aw] at free
    cases free
  · rintro ⟨confined, apart⟩
    use confined, List.forall_mem_nil _
    apply apart.imp_of_mem
    intro a b ha hb free
    rw [← Bool.not_eq_true, Matcher.overlaps_iff (confined b hb) (confined a ha)]
    exact mt Matcher.SharesWord.symm free

/-! ### Looking up -/

/-- At most one entry of a table has a word. -/
theorem Exclusive.filter_eq {es : List (Entry α)} (h : Exclusive es) {word : Int} {e : Entry α}
    (member : e ∈ es) (accepted : e.matcher.accepts word = true) :
  (es.filter fun e => e.matcher.accepts word) = [e]
  := by
  obtain ⟨before, after, rfl⟩ := List.append_of_mem member
  have apart := h.apart
  rw [List.pairwise_append, List.pairwise_cons] at apart
  obtain ⟨-, ⟨later, -⟩, earlier⟩ := apart
  have none : (before.filter fun e => e.matcher.accepts word) = [] := by
    rw [List.filter_eq_nil_iff]
    intro b hb bw
    exact earlier b hb e List.mem_cons_self ⟨word, bw, accepted⟩
  have none' : (after.filter fun e => e.matcher.accepts word) = [] := by
    rw [List.filter_eq_nil_iff]
    intro b hb bw
    exact later b hb ⟨word, accepted, bw⟩
  rw [List.filter_append, List.filter_cons, if_pos accepted, none, none', List.nil_append]

/-- No two entries of a table have the same mask and pattern. -/
theorem Exclusive.nodup {es : List (Entry α)} (h : Exclusive es) :
  (es.map fun e => e.matcher).Nodup
  := by
  rw [List.Nodup, List.pairwise_map]
  apply h.apart.imp_of_mem
  intro a b ha _ apart same
  apply apart
  rw [← same]
  apply (h.confined a ha).sharesWord_self

theorem Exclusive.perm {es es' : List (Entry α)} (h : Exclusive es) (same : es'.Perm es) :
  Exclusive es'
  := by
  constructor
  · intro e member
    apply h.confined e (same.mem_iff.mp member)
  · apply (same.pairwise_iff _).mpr h.apart
    intro a b apart
    exact mt Matcher.SharesWord.symm apart

section

variable {es : List (Entry α)} {t : Table α} (built : ofList es = .ok t)

include built

theorem lookup_of_accepts {word : Int} {e : Entry α} (member : e ∈ es)
    (accepted : e.matcher.accepts word = true) :
  t.lookup word = .ok e
  := by
  have exclusive := (exists_ofList_eq_ok_iff es).mp ⟨t, built⟩
  have found : t.find? word = some e := by
    rw [find?_ofList built, ← List.head?_filter, exclusive.filter_eq member accepted]
    rfl
  rw [lookup, found]

theorem lookup_of_not_accepts {word : Int}
    (refused : ∀ e ∈ es, e.matcher.accepts word = false) :
  t.lookup word = .error (.unknownWord word)
  := by
  have missed : t.find? word = none := by
    rw [find?_ofList built, List.find?_eq_none]
    intro e member
    rw [refused e member]
    apply Bool.false_ne_true
  rw [lookup, missed]

/-- A word is unknown exactly if no entry has it. -/
theorem lookup_eq_error_iff (word : Int) (f : Fault) :
  t.lookup word = .error f ↔
    f = .unknownWord word ∧ ∀ e ∈ es, e.matcher.accepts word = false
  := by
  constructor
  · intro unknown
    have refused : ∀ e ∈ es, e.matcher.accepts word = false := by
      intro e member
      rw [← Bool.not_eq_true]
      intro accepted
      cases unknown.symm.trans (lookup_of_accepts built member accepted)
    constructor
    · cases unknown.symm.trans (lookup_of_not_accepts built refused)
      rfl
    · exact refused
  · rintro ⟨rfl, refused⟩
    apply lookup_of_not_accepts built refused

/-- The look-up does not depend on the order of the entries. -/
theorem lookup_perm {es' : List (Entry α)} {t' : Table α} (built' : ofList es' = .ok t')
    (same : es'.Perm es) (word : Int) :
  t'.lookup word = t.lookup word
  := by
  by_cases known : ∃ e ∈ es, e.matcher.accepts word = true
  · obtain ⟨e, member, accepted⟩ := known
    rw [lookup_of_accepts built member accepted,
      lookup_of_accepts built' (same.mem_iff.mpr member) accepted]
  · have refused : ∀ e ∈ es, e.matcher.accepts word = false := by
      intro e member
      rw [← Bool.not_eq_true]
      intro accepted
      exact known ⟨e, member, accepted⟩
    rw [lookup_of_not_accepts built refused, lookup_of_not_accepts built']
    intro e member
    apply refused e (same.mem_iff.mp member)

end

/-- A list of entries is a table exactly if their patterns are confined to their masks and no two of
them have a word in common, which for confined patterns is what the test for overlaps tells;
otherwise it is refused. A table finds for a word the entry that has it, which is the only one in
the list, and a word is unknown exactly if no entry has it. No two entries have the same mask and
pattern, and every order of the entries makes a table that finds the same. -/
theorem ofList_exact (es : List (Entry α)) :
  ((∃ t, ofList es = .ok t) ↔ Exclusive es) ∧
    ((∃ conflict, ofList es = .error conflict) ↔ ¬Exclusive es) ∧
    (∀ a b : Matcher, a.Confined → b.Confined → (a.overlaps b = true ↔ a.SharesWord b)) ∧
    ∀ t, ofList es = .ok t →
      (∀ word, ∀ e ∈ es, e.matcher.accepts word = true →
        t.lookup word = .ok e ∧ (es.filter fun e => e.matcher.accepts word) = [e]) ∧
      (∀ word f, t.lookup word = .error f ↔
        f = .unknownWord word ∧ ∀ e ∈ es, e.matcher.accepts word = false) ∧
      (es.map fun e => e.matcher).Nodup ∧
      ∀ es', es'.Perm es → ∃ t', ofList es' = .ok t' ∧ ∀ word, t'.lookup word = t.lookup word
  := by
  have builds := exists_ofList_eq_ok_iff es
  use builds
  constructor
  · rw [← builds]
    cases ofList es with
    | ok t => simp
    | error conflict => simp
  use fun a b => Matcher.overlaps_iff
  intro t built
  have exclusive := builds.mp ⟨t, built⟩
  constructor
  · intro word e member accepted
    use lookup_of_accepts built member accepted
    apply exclusive.filter_eq member accepted
  use lookup_eq_error_iff built, exclusive.nodup
  intro es' same
  obtain ⟨t', built'⟩ := (exists_ofList_eq_ok_iff es').mpr (exclusive.perm same)
  use t', built'
  apply lookup_perm built built' same

/-- An entry for all words that end in a certain byte. -/
def endingInFive : Entry Unit := ⟨"end", ⟨0xff, 5⟩, [], ()⟩

/-- An entry for one word, which is negative. -/
def minusThree : Entry Unit := ⟨"minus", ⟨-1, -3⟩, [], ()⟩

/-- Masks, patterns and words may be negative. -/
theorem ofList_exact_negative :
  ∃ t, ofList [endingInFive, minusThree] = .ok t ∧ t.lookup (-251) = .ok endingInFive ∧
    t.lookup (-3) = .ok minusThree ∧ t.lookup 253 = .error (.unknownWord 253) ∧
    ∃ t', ofList [minusThree, endingInFive] = .ok t' ∧ t'.lookup (-3) = .ok minusThree
  := by
  obtain ⟨builds, -, -, exact⟩ := ofList_exact [endingInFive, minusThree]
  have built : ofList [endingInFive, minusThree] =
      .ok ⟨[endingInFive, minusThree], [(0xff, [endingInFive]), (-1, [minusThree])]⟩ := by rfl
  obtain ⟨found, unknown, -, reordered⟩ := exact _ built
  obtain ⟨t', built', same⟩ := reordered [minusThree, endingInFive] (.swap _ _ _)
  have last : t'.lookup (-3) = .ok minusThree :=
    (same (-3)).trans (found (-3) minusThree (by simp) (by decide)).1
  exact ⟨_, built, (found (-251) endingInFive (by simp) (by decide)).1,
    (found (-3) minusThree (by simp) (by decide)).1,
    (unknown 253 _).mpr ⟨rfl, by decide⟩, t', built', last⟩

end Table

end Chip8
