import Chip8.Instruction
import Mathlib.Tactic.Common

/-!
# Look-up in dispatch tables

The groups of a table hold exactly its entries, each under its own mask (`Table.Indexed`), and no
word belongs to two of its entries. So the search group by group finds what a search through the
list of entries finds (`Table.find?_ofList`), and the instruction of a word is the one whose
matcher accepts it (`Instruction.lookup_eq`).
-/

namespace Chip8

/-! ### Matchers -/

/-- The matchers of a common word overlap. -/
theorem Matcher.overlaps_of_accepts {a b : Matcher} {word : Int} (ha : a.accepts word = true)
    (hb : b.accepts word = true) :
  a.overlaps b = true
  := by
  rw [accepts, beq_iff_eq] at ha hb
  rw [overlaps, beq_iff_eq, ← ha, ← hb]
  apply Bits.eq_of_test_eq
  intro k
  simp only [Bits.test_and, Bits.test_xor]
  show _ = Nat.testBit 0 k
  rw [Nat.zero_testBit]
  cases Bits.test word k <;> cases Bits.test a.mask k <;> cases Bits.test b.mask k <;> rfl

namespace Table

variable {α : Type}

/-! ### Groups -/

/-- The groups of a table hold its entries, each under its own mask. -/
structure Indexed (t : Table α) : Prop where
  mask : ∀ g ∈ t.groups, ∀ e ∈ g.2, e.matcher.mask = g.1
  entry : ∀ e, e ∈ t.entries ↔ ∃ g ∈ t.groups, e ∈ g.2

theorem mask_addToGroups (new : Entry α) {groups : List (Int × List (Entry α))}
    (h : ∀ g ∈ groups, ∀ e ∈ g.2, e.matcher.mask = g.1) :
  ∀ g ∈ addToGroups new groups, ∀ e ∈ g.2, e.matcher.mask = g.1
  := by
  induction groups with
  | nil =>
      intro g hg e he
      rw [addToGroups, List.mem_singleton] at hg
      subst hg
      rw [List.mem_singleton.mp he]
  | cons group groups ih =>
      obtain ⟨mask, es⟩ := group
      obtain ⟨hhead, htail⟩ := List.forall_mem_cons.mp h
      rw [addToGroups]
      split
      · next same =>
          rw [List.forall_mem_cons]
          constructor
          · intro e he
            rcases List.mem_append.mp he with he | he
            · apply hhead e he
            · rw [List.mem_singleton.mp he, same]
          · apply htail
      · rw [List.forall_mem_cons]
        exact ⟨hhead, ih htail⟩

theorem exists_mem_addToGroups (new e : Entry α) (groups : List (Int × List (Entry α))) :
  (∃ g ∈ addToGroups new groups, e ∈ g.2) ↔ (∃ g ∈ groups, e ∈ g.2) ∨ e = new
  := by
  induction groups with
  | nil => simp [addToGroups]
  | cons group groups ih =>
      obtain ⟨mask, es⟩ := group
      rw [addToGroups]
      split
      · simp only [List.mem_cons, exists_eq_or_imp, List.mem_append, List.not_mem_nil, or_false]
        apply or_right_comm
      · simp only [List.mem_cons, exists_eq_or_imp, ih]
        apply or_assoc.symm

theorem indexed_empty :
  (empty : Table α).Indexed
  where
  mask := by simp [empty]
  entry := by simp [empty]

/-- What adding an entry that is not refused makes of a table. -/
theorem add_eq_ok {t t' : Table α} {new : Entry α} (h : t.add new = .ok t') :
  (∀ e ∈ t.entries, new.matcher.overlaps e.matcher = false) ∧
    t' = ⟨t.entries ++ [new], addToGroups new t.groups⟩
  := by
  rw [add] at h
  split at h
  · cases h
  · split at h
    · cases h
    · next none =>
        obtain rfl := Except.ok.inj h
        rw [List.find?_eq_none] at none
        constructor
        · intro e he
          rw [← Bool.not_eq_true]
          apply none e he
        · rfl

theorem Indexed.add {t t' : Table α} {new : Entry α} (indexed : t.Indexed)
    (h : t.add new = .ok t') :
  t'.Indexed
  := by
  obtain ⟨-, rfl⟩ := add_eq_ok h
  constructor
  · apply mask_addToGroups new indexed.mask
  · intro e
    rw [exists_mem_addToGroups, List.mem_append, List.mem_singleton, indexed.entry]

/-! ### Tables of a list -/

/-- What a list of entries must satisfy to be added to a table, one after the other. -/
theorem foldlM_add {es : List (Entry α)} {t t' : Table α} (indexed : t.Indexed)
    (apart : t.entries.Pairwise fun a b => b.matcher.overlaps a.matcher = false)
    (h : es.foldlM Table.add t = .ok t') :
  t'.Indexed ∧ t'.entries = t.entries ++ es ∧
    t'.entries.Pairwise fun a b => b.matcher.overlaps a.matcher = false
  := by
  induction es generalizing t with
  | nil =>
      obtain rfl := Except.ok.inj h
      use indexed, (List.append_nil _).symm
  | cons new es ih =>
      rw [List.foldlM_cons] at h
      cases added : t.add new with
      | error e => rw [added] at h; cases h
      | ok u =>
          rw [added] at h
          obtain ⟨free, rfl⟩ := add_eq_ok added
          obtain ⟨indexed', entries, apart'⟩ := ih (indexed.add added)
            (List.pairwise_append.mpr ⟨apart, List.pairwise_singleton _ _, by simpa using free⟩) h
          use indexed'
          rw [List.append_assoc] at entries
          exact ⟨entries, apart'⟩

theorem indexed_ofList {es : List (Entry α)} {t : Table α} (h : ofList es = .ok t) :
  t.Indexed ∧ t.entries = es ∧ es.Pairwise fun a b => b.matcher.overlaps a.matcher = false
  := by
  obtain ⟨indexed, entries, apart⟩ := foldlM_add indexed_empty List.Pairwise.nil h
  have same : t.entries = es := entries
  rw [same] at apart
  exact ⟨indexed, same, apart⟩

/-! ### Search -/

/-- What is found is an entry that has the word. -/
theorem Indexed.accepts_of_find? {t : Table α} (indexed : t.Indexed) {word : Int} {e : Entry α}
    (h : t.find? word = some e) :
  e ∈ t.entries ∧ e.matcher.accepts word = true
  := by
  obtain ⟨g, hg, found⟩ := List.exists_of_findSome?_eq_some h
  have member := List.mem_of_find?_eq_some found
  have pattern := List.find?_some found
  constructor
  · apply (indexed.entry e).mpr ⟨g, hg, member⟩
  · rw [beq_iff_eq] at pattern
    rw [Matcher.accepts, indexed.mask g hg e member, pattern, beq_iff_eq]

/-- Nothing is found only if no entry has the word. -/
theorem Indexed.not_accepts_of_find? {t : Table α} (indexed : t.Indexed) {word : Int}
    (h : t.find? word = none) {e : Entry α} (he : e ∈ t.entries) :
  e.matcher.accepts word = false
  := by
  obtain ⟨g, hg, member⟩ := (indexed.entry e).mp he
  have missed := List.findSome?_eq_none_iff.mp h g hg
  rw [findInGroup, List.find?_eq_none] at missed
  rw [← Bool.not_eq_true]
  intro accepted
  apply missed e member
  rw [Matcher.accepts, indexed.mask g hg e member, beq_iff_eq] at accepted
  rw [accepted, beq_iff_eq]

/-- At most one entry of a list without overlaps has a word. -/
theorem eq_of_accepts {es : List (Entry α)}
    (apart : es.Pairwise fun a b => b.matcher.overlaps a.matcher = false) {word : Int}
    {a b : Entry α} (ha : a ∈ es) (hb : b ∈ es) (aw : a.matcher.accepts word = true)
    (bw : b.matcher.accepts word = true) :
  a = b
  := by
  induction es with
  | nil => cases ha
  | cons e es ih =>
      obtain ⟨head, tail⟩ := List.pairwise_cons.mp apart
      rcases List.mem_cons.mp ha with rfl | ha'
      · rcases List.mem_cons.mp hb with rfl | hb'
        · rfl
        · have key := head b hb'
          rw [Matcher.overlaps_of_accepts bw aw] at key
          cases key
      · rcases List.mem_cons.mp hb with rfl | hb'
        · have key := head a ha'
          rw [Matcher.overlaps_of_accepts aw bw] at key
          cases key
        · apply ih tail ha' hb'

/-- The search through the groups of a table finds what a search through its list finds. -/
theorem find?_ofList {es : List (Entry α)} {t : Table α} (h : ofList es = .ok t) (word : Int) :
  t.find? word = es.find? fun e => e.matcher.accepts word
  := by
  obtain ⟨indexed, rfl, apart⟩ := indexed_ofList h
  cases found : t.find? word with
  | none =>
      symm
      rw [List.find?_eq_none]
      intro e he
      rw [indexed.not_accepts_of_find? found he]
      apply Bool.false_ne_true
  | some e =>
      obtain ⟨member, accepted⟩ := indexed.accepts_of_find? found
      cases listed : t.entries.find? fun e => e.matcher.accepts word with
      | none =>
          rw [List.find?_eq_none] at listed
          exact absurd accepted (listed e member)
      | some e' =>
          have accepted' : e'.matcher.accepts word = true := by
            apply List.find?_some listed
          rw [eq_of_accepts apart member (List.mem_of_find?_eq_some listed) accepted accepted']

end Table

/-! ### The instruction of a word -/

namespace Instruction

/-- Whether a word belongs to an instruction. -/
def accepts (i : Instruction) (word : Int) : Bool := i.entry.matcher.accepts word

/-- The instruction that has a word, found by trying all of them. -/
def ofWord? (word : Int) : Option Instruction := all.find? fun i => i.accepts word

theorem mem_all (i : Instruction) :
  i ∈ all
  := by
  cases i <;> decide

/-- The table finds the instruction that has a word. -/
theorem find?_table (word : Int) :
  table.find? word = (ofWord? word).map entry
  := by
  rw [Table.find?_ofList ofList_entries, List.find?_map]
  rfl

theorem lookup_eq (word : Int) :
  table.lookup word =
    match ofWord? word with
    | some i => .ok i.entry
    | none => .error (.unknownWord word)
  := by
  rw [Table.lookup, find?_table]
  cases ofWord? word with
  | none => rfl
  | some i => rfl

/-- A word has no instruction exactly if it belongs to none. -/
theorem ofWord?_eq_none_iff (word : Int) :
  ofWord? word = none ↔ ∀ i : Instruction, i.accepts word = false
  := by
  rw [ofWord?, List.find?_eq_none]
  constructor
  · intro h i
    rw [← Bool.not_eq_true]
    apply h i (mem_all i)
  · intro h i _
    rw [h i]
    apply Bool.false_ne_true

/-- A word has an instruction exactly if it belongs to it. -/
theorem ofWord?_eq_some_iff (word : Int) (i : Instruction) :
  ofWord? word = some i ↔ i.accepts word = true
  := by
  constructor
  · intro h
    apply List.find?_some h
  · intro h
    cases found : ofWord? word with
    | none => rw [(ofWord?_eq_none_iff word).mp found i] at h; cases h
    | some j =>
        obtain ⟨-, -, apart⟩ := Table.indexed_ofList ofList_entries
        have h' : j.accepts word = true := by
          apply List.find?_some found
        have same : j.entry = i.entry :=
          Table.eq_of_accepts apart (List.mem_map_of_mem (mem_all j))
            (List.mem_map_of_mem (mem_all i)) h' h
        rw [show j = i from congrArg Entry.meaning same]

end Instruction

end Chip8
