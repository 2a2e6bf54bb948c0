import Chip8.Numeral.Hex
import Mathlib.Tactic.Common

/-!
# Hexadecimal text read back

The digits of a number make the number again (`Hex.value_digits`), whatever zeros stand before them,
so a number is told by its text, to whichever width it is padded (`Hex.padded_injective`). The text
of a number which the least width is enough for has exactly this width (`Hex.length_padded`).
-/

namespace Chip8.Hex

/-- Whether a character is one of the digits. -/
def isDigit (c : Char) : Bool := (List.range 16).any fun d => d.digitChar == c

/-- The number of a digit. -/
def digitValue (c : Char) : Nat := (List.range 16).findIdx fun d => d.digitChar == c

/-- The number that digits make, the first one most significant. -/
def value (cs : List Char) : Nat := cs.foldl (fun n c => 16 * n + digitValue c) 0

/-- The integer that a text denotes, which may begin with a minus sign. -/
def read : List Char → Int
  | '-' :: cs => -value cs
  | cs => value cs

theorem digit_spec {d : Nat} (h : d < 16) :
  isDigit d.digitChar = true ∧ digitValue d.digitChar = d
  := by
  have digits : ∀ d < 16, isDigit d.digitChar = true ∧ digitValue d.digitChar = d := by decide
  exact digits d h

/-! ### Digits -/

theorem isDigit_of_mem_digits {n : Nat} {c : Char} (h : c ∈ digits n) :
  isDigit c = true
  := by
  induction n using Nat.strongRecOn with
  | _ n ih =>
      by_cases small : n < 16
      · rw [digits_of_lt small, List.mem_singleton] at h
        rw [h]
        exact (digit_spec small).1
      · rw [digits_of_le (Nat.le_of_not_lt small), List.mem_append, List.mem_singleton] at h
        rcases h with h | rfl
        · apply ih (n / 16) (by omega) h
        · exact (digit_spec (Nat.mod_lt n (by decide))).1

/-- The digits of a number make the number. -/
theorem value_digits (n : Nat) :
  value (digits n) = n
  := by
  induction n using Nat.strongRecOn with
  | _ n ih =>
      by_cases small : n < 16
      · rw [digits_of_lt small, value, List.foldl_cons, List.foldl_nil, (digit_spec small).2]
        omega
      · have last := (digit_spec (Nat.mod_lt n (by decide : 0 < 16))).2
        rw [digits_of_le (Nat.le_of_not_lt small), value, List.foldl_append, ← value,
          ih (n / 16) (by omega), List.foldl_cons, List.foldl_nil, last]
        omega

theorem value_zeros_append (k : Nat) (cs : List Char) :
  value (List.replicate k '0' ++ cs) = value cs
  := by
  induction k with
  | zero => rfl
  | succ k ih => exact ih

/-! ### Text -/

/-- Text that is not padded is text of no least width. -/
theorem text_eq_padded (v : Int) :
  text v = padded 0 v
  := by
  rw [text, padded]
  split <;> simp

theorem toList_padded (width : Nat) (v : Int) :
  ∃ k, (padded width v).toList =
    (if v < 0 then ['-'] else []) ++ (List.replicate k '0' ++ digits v.natAbs)
  := by
  rw [padded, String.toList_ofList, List.append_assoc]
  exact ⟨_, rfl⟩

theorem mem_padded {width : Nat} {v : Int} {c : Char} (h : c ∈ (padded width v).toList) :
  (c = '-' ∧ v < 0) ∨ isDigit c = true
  := by
  obtain ⟨k, written⟩ := toList_padded width v
  rw [written, List.mem_append, List.mem_append] at h
  rcases h with sign | zero | digit
  · split at sign
    · next negative => exact .inl ⟨List.mem_singleton.mp sign, negative⟩
    · cases sign
  · rw [(List.mem_replicate.mp zero).2]
    exact .inr (by decide)
  · exact .inr (isDigit_of_mem_digits digit)

theorem notMem_padded {c : Char} (sign : c ≠ '-') (digit : isDigit c = false) (width : Nat)
    (v : Int) :
  c ∉ (padded width v).toList
  := by
  intro member
  rcases mem_padded member with ⟨minus, -⟩ | shown
  · exact sign minus
  · rw [digit] at shown
    cases shown

/-- Text denotes the integer it was written for. -/
theorem read_padded (width : Nat) (v : Int) :
  read (padded width v).toList = v
  := by
  obtain ⟨k, written⟩ := toList_padded width v
  have number : value (List.replicate k '0' ++ digits v.natAbs) = v.natAbs := by
    rw [value_zeros_append, value_digits]
  rw [written]
  split
  · show -(value (List.replicate k '0' ++ digits v.natAbs) : Int) = v
    rw [number]
    omega
  · rw [List.nil_append, read.eq_def]
    split
    · next cs first =>
        have digit : '-' ∈ List.replicate k '0' ++ digits v.natAbs := by
          rw [first]
          apply List.mem_cons_self
        rcases List.mem_append.mp digit with zero | digit
        · cases (List.mem_replicate.mp zero).2
        · cases isDigit_of_mem_digits digit
    · rw [number]
      omega

/-- An integer is told by its text. -/
theorem padded_injective {width : Nat} {v v' : Int} (h : padded width v = padded width v') :
  v = v'
  := by
  rw [← read_padded width v, h, read_padded]

/-- The text of a number has the least width, if this is enough for its digits. -/
theorem length_padded {width n : Nat} (small : n < Nat.pow 16 (max width 1)) :
  (padded width n).toList.length = max width 1
  := by
  have long := (Nat.length_toDigits_le_iff (by decide : 1 < 16) (by omega)).mpr small
  have short := List.length_pos_iff.mpr (digits_ne_nil n)
  rw [digits] at short
  simp only [padded, String.toList_ofList, List.length_append, List.length_replicate, digits,
    Int.natAbs_natCast, Int.not_lt.mpr (Int.natCast_nonneg n), if_false, List.length_nil]
  omega

/-- Numbers of the same width are told without anything between them. -/
theorem join_padded_inj {width : Nat} {ns ns' : List Nat}
    (small : ∀ n ∈ ns, n < Nat.pow 16 (max width 1))
    (small' : ∀ n ∈ ns', n < Nat.pow 16 (max width 1))
    (same : String.join (ns.map fun (n : Nat) => padded width n) =
      String.join (ns'.map fun (n : Nat) => padded width n)) :
  ns = ns'
  := by
  have filled : ∀ {ns : List Nat}, (∀ n ∈ ns, n < Nat.pow 16 (max width 1)) →
      String.join (ns.map fun (n : Nat) => padded width n) = "" → ns = [] := by
    intro ns small empty
    cases ns with
    | nil => rfl
    | cons n ns =>
        have none := congrArg String.toList empty
        have long := length_padded (small n List.mem_cons_self)
        rw [List.map_cons, String.join_cons, String.toList_append] at none
        rw [(List.append_eq_nil_iff.mp none).1, List.length_nil] at long
        omega
  induction ns generalizing ns' with
  | nil => exact (filled small' same.symm).symm
  | cons n ns ih =>
      cases ns' with
      | nil => exact filled small same
      | cons n' ns' =>
          obtain ⟨here, small⟩ := List.forall_mem_cons.mp small
          obtain ⟨here', small'⟩ := List.forall_mem_cons.mp small'
          have characters := congrArg String.toList same
          simp only [List.map_cons, String.join_cons, String.toList_append] at characters
          obtain ⟨first, rest⟩ := List.append_inj characters
            ((length_padded here).trans (length_padded here').symm)
          have number := padded_injective (String.toList_injective first)
          rw [Int.natCast_inj.mp number, ih small small' (String.toList_injective rest)]

end Chip8.Hex
