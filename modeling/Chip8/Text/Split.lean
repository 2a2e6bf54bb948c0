/-!
# Separated parts

A text is divided into parts by a separator. The number of parts is one more than the number of
separators, so a text without a separator, even an empty one, is one part.
-/

namespace Chip8.Text

/-- The parts between the separators. -/
def split (separator : Char) : List Char → List (List Char)
  | [] => [[]]
  | c :: cs =>
      match split separator cs with
      | [] => []
      | part :: parts =>
          if c = separator then [] :: part :: parts else (c :: part) :: parts

/-- There is one part more than there are separators. -/
theorem length_split (separator : Char) (cs : List Char) :
  (split separator cs).length = cs.count separator + 1
  := by
  induction cs with
  | nil => rfl
  | cons c cs ih =>
      rw [split]
      split
      · next h =>
          rw [h] at ih
          simp at ih
      · next part parts h =>
          rw [h] at ih
          rw [List.count_cons]
          by_cases hc : c = separator
          · simp only [hc, if_true, List.length_cons, beq_self_eq_true] at ih ⊢
            omega
          · have hb : (c == separator) = false := by simpa using hc
            simp only [hc, hb, if_false, List.length_cons, Bool.false_eq_true] at ih ⊢
            omega

/-! ### The parts and the text -/

/-- A text without a separator is one part. -/
theorem split_of_notMem {separator : Char} {cs : List Char} (clean : separator ∉ cs) :
  split separator cs = [cs]
  := by
  induction cs with
  | nil => rfl
  | cons c cs ih =>
      have different : c ≠ separator := fun same => clean (same ▸ List.mem_cons_self)
      rw [split, ih fun later => clean (List.mem_cons_of_mem c later)]
      apply if_neg different

/-- The first part ends at the first separator. -/
theorem split_append {separator : Char} {part : List Char} (cs : List Char)
    (clean : separator ∉ part) :
  split separator (part ++ separator :: cs) = part :: split separator cs
  := by
  induction part with
  | nil =>
      rw [List.nil_append, split]
      cases divided : split separator cs with
      | nil =>
          have counted := length_split separator cs
          rw [divided] at counted
          cases counted
      | cons first parts => apply if_pos rfl
  | cons c part ih =>
      have different : c ≠ separator := fun same => clean (same ▸ List.mem_cons_self)
      rw [List.cons_append, split, ih fun later => clean (List.mem_cons_of_mem c later)]
      apply if_neg different

/-- A text has some parts, none of which contains the separator, and is those parts with
separators between them. -/
structure Divides (separator : Char) (cs : List Char) (parts : List (List Char)) : Prop where
  some : parts ≠ []
  clean : ∀ part ∈ parts, separator ∉ part
  whole : [separator].intercalate parts = cs

theorem divides_split (separator : Char) (cs : List Char) :
  Divides separator cs (split separator cs)
  := by
  induction cs with
  | nil => exact ⟨List.cons_ne_nil [] [], by simp [split], rfl⟩
  | cons c cs ih =>
      rw [split]
      cases divided : split separator cs with
      | nil => exact absurd divided ih.some
      | cons part parts =>
          rw [divided] at ih
          dsimp only
          split
          · next same =>
              refine ⟨List.cons_ne_nil _ _, ?_, ?_⟩
              · intro part' here
                rcases List.mem_cons.mp here with rfl | here
                · exact List.not_mem_nil
                · exact ih.clean part' here
              · rw [List.intercalate_cons_cons, ih.whole, same]
                rfl
          · next different =>
              refine ⟨List.cons_ne_nil _ _, ?_, ?_⟩
              · intro part' here
                rcases List.mem_cons.mp here with rfl | here
                · intro among
                  rcases List.mem_cons.mp among with same | among
                  · exact different same.symm
                  · exact ih.clean part List.mem_cons_self among
                · exact ih.clean part' (List.mem_cons_of_mem part here)
              · rw [← ih.whole]
                cases parts with
                | nil => rw [List.intercalate_singleton, List.intercalate_singleton]
                | cons second parts =>
                    rw [List.intercalate_cons_cons, List.intercalate_cons_cons]
                    rfl

/-- No other list than that of the parts divides a text. -/
theorem Divides.split_eq {separator : Char} {cs : List Char} {parts : List (List Char)}
    (h : Divides separator cs parts) :
  split separator cs = parts
  := by
  obtain ⟨some, clean, rfl⟩ := h
  induction parts with
  | nil => exact absurd rfl some
  | cons part parts ih =>
      have first := clean part List.mem_cons_self
      cases parts with
      | nil =>
          rw [List.intercalate_singleton]
          apply split_of_notMem first
      | cons second parts =>
          rw [List.intercalate_cons_cons, List.append_assoc, List.singleton_append,
            split_append _ first, ih (List.cons_ne_nil second parts)]
          intro part' here
          apply clean part' (List.mem_cons_of_mem part here)

end Chip8.Text
