import Chip8.Dump
import Chip8.Proofs.Hexadecimal
import Mathlib.Data.List.Basic

/-!
# Dumps read back

A full dump tells everything it shows (`Dump.full_eq_iff`), although most of its numbers are written
with a least width only. What tells them apart is different from part to part: the data registers
have two digits each, the other numbers end where the next label begins, the instruction ends with
its line, and each entry of the call stack ends where the next one begins. So each part is shown to
be told together with the place where it ends.
-/

namespace Chip8

/-! ### Texts with marks -/

namespace Text

/-- A text is empty or begins with a given character. -/
def Begins (c : Char) (t : String) : Prop := t = "" ∨ t.toList.head? = some c

instance (c : Char) (t : String) : Decidable (Begins c t) := inferInstanceAs (Decidable (_ ∨ _))

theorem begins_append {c : Char} {t : String} (first : t.toList.head? = some c) (u : String) :
  Begins c (t ++ u)
  := by
  right
  rw [String.toList_append, List.head?_append, first, Option.some_or]

/-- A text without a character is told with its end, if this character marks the end. -/
theorem append_inj_of_begins {c : Char} {s s' t t' : String} (hs : c ∉ s.toList)
    (hs' : c ∉ s'.toList) (ht : Begins c t) (ht' : Begins c t') (same : s ++ t = s' ++ t') :
  s = s' ∧ t = t'
  := by
  have before : ∀ {s t : String}, c ∉ s.toList → Begins c t →
      (s ++ t).toList.takeWhile (· != c) = s.toList := by
    intro s t absent marked
    have rest : t.toList.takeWhile (· != c) = [] := by
      rcases marked with rfl | first
      · rfl
      · obtain ⟨cs, rest⟩ := List.head?_eq_some_iff.mp first
        rw [rest]
        exact List.takeWhile_cons_of_neg (by simp)
    rw [String.toList_append, List.takeWhile_append_of_pos, rest, List.append_nil]
    intro x member
    exact bne_iff_ne.mpr fun equal => absent (equal ▸ member)
  have text : s = s' := by
    apply String.toList_injective
    rw [← before hs ht, same, before hs' ht']
  rw [text] at same
  exact ⟨text, (String.append_right_inj s').mp same⟩

/-- A text is not continued by what does not begin it. -/
theorem ne_append {s p : String} (h : ¬p.toList <+: s.toList) (t : String) :
  s ≠ p ++ t
  := by
  rintro rfl
  rw [String.toList_append] at h
  exact h (List.prefix_append _ _)

/-- Texts, each with the label that follows it. -/
def labelled (fields : List (String × String)) : String :=
  String.join (fields.map fun f => f.1 ++ f.2)

/-- Texts without blanks are told with their end, if their labels are known and begin with a blank. -/
theorem labelled_append_inj {fields fields' : List (String × String)} {t t' : String}
    (labels : fields.map Prod.snd = fields'.map Prod.snd)
    (marks : ∀ label ∈ fields.map Prod.snd, label.toList.head? = some ' ')
    (plain : ∀ f ∈ fields, ' ' ∉ f.1.toList) (plain' : ∀ f ∈ fields', ' ' ∉ f.1.toList)
    (same : labelled fields ++ t = labelled fields' ++ t') :
  fields = fields' ∧ t = t'
  := by
  induction fields generalizing fields' with
  | nil =>
      obtain rfl := List.map_eq_nil_iff.mp labels.symm
      exact ⟨rfl, (String.append_right_inj _).mp same⟩
  | cons f fields ih =>
      cases fields' with
      | nil => cases labels
      | cons f' fields' =>
          obtain ⟨label, labels⟩ := List.cons.inj labels
          obtain ⟨mark, marks⟩ := List.forall_mem_cons.mp marks
          obtain ⟨here, plain⟩ := List.forall_mem_cons.mp plain
          obtain ⟨here', plain'⟩ := List.forall_mem_cons.mp plain'
          simp only [labelled, List.map_cons, String.join_cons, String.append_assoc, ← label] at same
          obtain ⟨text, rest⟩ := append_inj_of_begins here here' (begins_append mark _)
            (begins_append mark _) same
          obtain ⟨rfl, tail⟩ := ih labels marks plain plain' ((String.append_right_inj _).mp rest)
          exact ⟨congrArg (· :: fields) (Prod.ext text label), tail⟩

end Text

open Text

namespace Dump

/-! ### The line of the registers -/

theorem registers_injective {m m' : Machine} (bytes : ∀ x, m.registers.get x ≤ 0xff)
    (bytes' : ∀ x, m'.registers.get x ≤ 0xff) (same : registers m = registers m') :
  m.registers.data = m'.registers.data
  := by
  have small : ∀ {m : Machine}, (∀ x, m.registers.get x ≤ 0xff) →
      ∀ v ∈ m.registers.values.reverse, v < Nat.pow 16 (max 2 1) := by
    intro m bytes v member
    rw [List.mem_reverse, Registers.values, Vector.mem_toList_iff, Vector.mem_iff_getElem] at member
    obtain ⟨x, within, rfl⟩ := member
    exact Nat.lt_succ_of_le (bytes ⟨x, within⟩)
  have values := List.reverse_injective (Hex.join_padded_inj (small bytes) (small bytes') same)
  exact Vector.toList_inj.mp values

theorem word_injective {w w' : Option Int} (same : word w = word w') :
  w = w'
  := by
  have known : ∀ v, word none ≠ word (some v) := fun v => ne_append (by decide) (Hex.padded 4 v)
  match w, w' with
  | none, none => rfl
  | none, some v' => exact absurd same (known v')
  | some v, none => exact absurd same.symm (known v)
  | some v, some v' =>
      exact congrArg some (Hex.padded_injective ((String.append_right_inj _).mp same))

theorem notMem_word (w : Option Int) :
  ' ' ∉ (word w).toList
  := by
  cases w with
  | none => decide
  | some v =>
      rw [word, String.toList_append, List.mem_append, not_or]
      exact ⟨by decide, Hex.notMem_padded (by decide) (by decide) _ v⟩

/-- The numbers of a line, each with the label of what follows it. -/
def fields (m : Machine) (opcode : Option Int) : List (String × String) :=
  [(registers m, " I: 0x"),
    (Hex.padded 3 m.registers.i.value, " DT: 0x"),
    (Hex.padded 2 m.delay.value, " ST: 0x"),
    (Hex.padded 2 m.sound.value, " PC: 0x"),
    (Hex.padded 3 m.registers.pc.value, " OP: "),
    (word opcode, " IN: ")]

theorem line_eq (m : Machine) (opcode : Option Int) (instruction : String) :
  line m opcode instruction = "V: 0x" ++ (labelled (fields m opcode) ++ instruction)
  := by
  simp [line, fields, labelled, String.join_cons, String.append_assoc]

theorem plain_fields (m : Machine) (opcode : Option Int) :
  ∀ f ∈ fields m opcode, ' ' ∉ f.1.toList
  := by
  have number : ∀ (width : Nat) (v : Int), ' ' ∉ (Hex.padded width v).toList :=
    Hex.notMem_padded (by decide) (by decide)
  have data : ' ' ∉ (registers m).toList := by
    rw [registers, String.toList_join, List.mem_flatMap]
    rintro ⟨text, member, blank⟩
    obtain ⟨v, -, rfl⟩ := List.mem_map.mp member
    exact number 2 v blank
  simp only [fields, List.forall_mem_cons]
  exact ⟨data, number 3 _, number 2 _, number 2 _, number 3 _, notMem_word opcode,
    fun _ none => nomatch none⟩

/-- A line tells what it shows, and where it ends. -/
theorem line_append_inj {m m' : Machine} {opcode opcode' : Option Int} {s s' t t' : String}
    (bytes : ∀ x, m.registers.get x ≤ 0xff) (bytes' : ∀ x, m'.registers.get x ≤ 0xff)
    (one : '\n' ∉ s.toList) (one' : '\n' ∉ s'.toList) (ht : Begins '\n' t) (ht' : Begins '\n' t')
    (same : line m opcode s ++ t = line m' opcode' s' ++ t') :
  (m.registers.data = m'.registers.data ∧ m.registers.i = m'.registers.i ∧ m.delay = m'.delay ∧
    m.sound = m'.sound ∧ m.registers.pc = m'.registers.pc ∧ opcode = opcode' ∧ s = s') ∧ t = t'
  := by
  simp only [line_eq, String.append_assoc, String.append_right_inj] at same
  have labels : (fields m opcode).map Prod.snd = (fields m' opcode').map Prod.snd := rfl
  have marks : ∀ label ∈ [" I: 0x", " DT: 0x", " ST: 0x", " PC: 0x", " OP: ", " IN: "],
      label.toList.head? = some ' ' := by decide
  obtain ⟨shown, rest⟩ := labelled_append_inj labels marks (plain_fields m opcode)
    (plain_fields m' opcode') same
  obtain ⟨text, tail⟩ := append_inj_of_begins one one' ht ht' rest
  have cell : ∀ {name : String} {bits : Int} {c c' : Cell name bits} {width : Nat},
      Hex.padded width c.value = Hex.padded width c'.value → c = c' :=
    fun equal => congrArg Cell.mk (Int.natCast_inj.mp (Hex.padded_injective equal))
  simp only [fields, List.cons.injEq, Prod.mk.injEq, and_true] at shown
  obtain ⟨data, i, delay, sound, pc, opcodes⟩ := shown
  exact ⟨⟨registers_injective bytes bytes' data, cell i, cell delay, cell sound, cell pc,
    word_injective opcodes, text⟩, tail⟩

/-! ### The call stack and the register that waits -/

/-- The text of an entry of the call stack. -/
def entry (a : Nat) : String := " 0x" ++ Hex.padded 3 a

theorem join_entries_cons (x : Nat) (xs : List Nat) :
  String.join ((x :: xs).map entry) = " 0x" ++ (Hex.padded 3 x ++ String.join (xs.map entry))
  := by
  rw [List.map_cons, String.join_cons, entry, String.append_assoc]

theorem ne_join_entries {s : String} (h : ¬" 0x".toList <+: s.toList) (x : Nat) (xs : List Nat) :
  s ≠ String.join ((x :: xs).map entry)
  := by
  rw [join_entries_cons]
  exact ne_append h _

theorem begins_join_entries (xs : List Nat) :
  Begins ' ' (String.join (xs.map entry))
  := by
  cases xs with
  | nil => decide
  | cons x xs =>
      rw [join_entries_cons]
      exact begins_append (by decide) _

/-- Entries are told from the places where they begin. -/
theorem join_entries_injective {xs xs' : List Nat}
    (same : String.join (xs.map entry) = String.join (xs'.map entry)) :
  xs = xs'
  := by
  have plain : ∀ x : Nat, ' ' ∉ (Hex.padded 3 x).toList :=
    fun x => Hex.notMem_padded (by decide) (by decide) 3 x
  induction xs generalizing xs' with
  | nil =>
      cases xs' with
      | nil => rfl
      | cons x' xs' => exact absurd same (ne_join_entries (by decide) x' xs')
  | cons x xs ih =>
      cases xs' with
      | nil => exact absurd same.symm (ne_join_entries (by decide) x xs)
      | cons x' xs' =>
          rw [join_entries_cons, join_entries_cons, String.append_right_inj] at same
          obtain ⟨first, rest⟩ := append_inj_of_begins (plain x) (plain x') (begins_join_entries xs)
            (begins_join_entries xs') same
          rw [Int.natCast_inj.mp (Hex.padded_injective first), ih rest]

/-- What the line of the call stack shows of the entries. -/
def shownEntries (xs : List Nat) : String :=
  if xs.isEmpty then " (Empty)" else String.join (xs.map entry)

theorem shownEntries_injective {xs xs' : List Nat} (same : shownEntries xs = shownEntries xs') :
  xs = xs'
  := by
  match xs, xs' with
  | [], [] => rfl
  | [], x' :: xs' => exact absurd same (ne_join_entries (by decide) x' xs')
  | x :: xs, [] => exact absurd same.symm (ne_join_entries (by decide) x xs)
  | x :: xs, x' :: xs' => exact join_entries_injective same

theorem notMem_shownEntries (xs : List Nat) :
  '\n' ∉ (shownEntries xs).toList
  := by
  rw [shownEntries]
  split
  · decide
  · rw [String.toList_join, List.mem_flatMap]
    rintro ⟨text, member, newline⟩
    obtain ⟨x, -, rfl⟩ := List.mem_map.mp member
    rw [entry, String.toList_append, List.mem_append] at newline
    rcases newline with mark | digit
    · revert mark
      decide
    · exact Hex.notMem_padded (by decide) (by decide) 3 x digit

theorem stack_eq (xs : List Nat) :
  stack xs = "\nStack:" ++ shownEntries xs
  := rfl

theorem begins_stack (xs : List Nat) (t : String) :
  Begins '\n' (stack xs ++ t)
  := by
  rw [stack_eq, String.append_assoc]
  exact begins_append (by decide) _

theorem begins_waiting (x : Option (Fin 16)) :
  Begins '\n' (waiting x)
  := by
  cases x with
  | none => decide
  | some x => exact begins_append (by decide) _

theorem waiting_injective {x x' : Option (Fin 16)} (same : waiting x = waiting x') :
  x = x'
  := by
  have known : ∀ x, waiting none ≠ waiting (some x) := fun x =>
    ne_append (by decide) (Hex.text x.val)
  match x, x' with
  | none, none => rfl
  | none, some x' => exact absurd same (known x')
  | some x, none => exact absurd same.symm (known x)
  | some x, some x' =>
      have text := (String.append_right_inj _).mp same
      rw [Hex.text_eq_padded, Hex.text_eq_padded] at text
      exact congrArg some (Fin.ext (Int.natCast_inj.mp (Hex.padded_injective text)))

/-! ### The full dump -/

/-- Full dumps are equal exactly if everything they show is equal: the data registers, the address
register, the timers, the program counter, the word, the instruction, the call stack with the order
of its entries, and the register that waits for a key. Only two things are asked for: that the data
registers hold bytes and that the instruction is written in one line. -/
theorem full_eq_iff {m m' : Machine} {opcode opcode' : Option Int} {s s' : String}
    (bytes : ∀ x, m.registers.get x ≤ 0xff) (bytes' : ∀ x, m'.registers.get x ≤ 0xff)
    (one : '\n' ∉ s.toList) (one' : '\n' ∉ s'.toList) :
  full m opcode s = full m' opcode' s' ↔
    m.registers.data = m'.registers.data ∧ m.registers.i = m'.registers.i ∧
    m.delay = m'.delay ∧ m.sound = m'.sound ∧ m.registers.pc = m'.registers.pc ∧
    opcode = opcode' ∧ s = s' ∧ m.stack = m'.stack ∧ m.awaiting = m'.awaiting
  := by
  constructor
  · intro same
    rw [full, full, String.append_assoc, String.append_assoc] at same
    obtain ⟨⟨data, i, delay, sound, pc, opcodes, text⟩, rest⟩ := line_append_inj bytes bytes' one one'
      (begins_stack _ _) (begins_stack _ _) same
    rw [stack_eq, stack_eq, String.append_assoc, String.append_assoc, String.append_right_inj] at rest
    obtain ⟨calls, key⟩ := append_inj_of_begins (notMem_shownEntries _) (notMem_shownEntries _)
      (begins_waiting _) (begins_waiting _) rest
    have stack : m.stack = m'.stack :=
      congrArg CallStack.mk (List.reverse_injective (shownEntries_injective calls))
    exact ⟨data, i, delay, sound, pc, opcodes, text, stack, waiting_injective key⟩
  · rintro ⟨data, i, delay, sound, pc, rfl, rfl, stack, key⟩
    simp only [full, line, registers, Registers.values, data, i, delay, sound, pc, stack, key]

/-- The random source is not shown; one entry of four digits is not written like two of fewer. -/
theorem full_eq_iff_initial :
  let m := Machine.initial (.ofList [])
  full m (some 0x00e0) "CLS" = full { m with random := .ofList [7] } (some 0x00e0) "CLS" ∧
    full { m with stack := ⟨[0x1234]⟩ } none "----" ≠
      full { m with stack := ⟨[0x234, 0x1]⟩ } none "----"
  := by
  have zeros : ∀ x : Fin 16, Registers.initial.get x ≤ 0xff := by decide
  intro m
  constructor
  · exact (full_eq_iff zeros zeros (by decide) (by decide)).mpr
      ⟨rfl, rfl, rfl, rfl, rfl, rfl, rfl, rfl, rfl⟩
  · intro same
    obtain ⟨-, -, -, -, -, -, -, calls, -⟩ :=
      (full_eq_iff zeros zeros (by decide) (by decide)).mp same
    cases calls

end Dump

end Chip8
