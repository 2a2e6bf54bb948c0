import Chip8.Execution
import Chip8.Proofs.Dispatch
import Chip8.Proofs.Hexadecimal
import Mathlib.Data.List.Nodup

/-!
# Disassembly

The text of an instruction tells its word. The fields of a word take as many characters as they have
nibbles, so a text is divided into its pieces in one way (`Mnemonic.describe_injective`). Digits apart,
no two instructions are written alike (`Instruction.outline_injective`), and each bit of a word is
either tested by the mask of its instruction or belongs to a field that the text shows
(`Instruction.covers`). Only the lowest sixteen bits of a word matter, for its instruction as for its
fields, so they are what the text tells (`Instruction.describe_eq_iff`).
-/

namespace Chip8

/-! ### The lowest bits of a word -/

namespace Bits

/-- The lowest sixteen bits of an integer are those of its remainder. -/
theorem testBit_low (w : Int) (k : Nat) :
  (w % 65536).toNat.testBit k = (decide (k < 16) && test w k)
  := by
  have power : 65536 = Nat.pow 2 16 := by decide
  cases w with
  | ofNat n =>
      have low : (Int.ofNat n % 65536).toNat = n % Nat.pow 2 16 := by
        rw [← power, Int.ofNat_eq_natCast]
        omega
      rw [low, test]
      apply Nat.testBit_mod_two_pow
  | negSucc n =>
      have small : n % Nat.pow 2 16 < Nat.pow 2 16 := Nat.mod_lt n (by decide)
      have low : (Int.negSucc n % 65536).toNat = Nat.pow 2 16 - (n % Nat.pow 2 16 + 1) := by
        rw [← power, Int.negSucc_eq]
        omega
      have inverted := Nat.testBit_two_pow_sub_succ small k
      have same := Nat.testBit_mod_two_pow n 16 k
      change (n % Nat.pow 2 16).testBit k = _ at same
      change (Nat.pow 2 16 - (n % Nat.pow 2 16 + 1)).testBit k = _ at inverted
      rw [low, test, inverted, same]
      cases decide (k < 16) <;> rfl

/-- Words agree in their lowest sixteen bits exactly if these are the same one by one. -/
theorem low_eq_iff {w w' : Int} :
  w % 65536 = w' % 65536 ↔ ∀ k < 16, test w k = test w' k
  := by
  constructor
  · intro same k low
    have bit := testBit_low w k
    rw [same, testBit_low, decide_eq_true low, Bool.true_and, Bool.true_and] at bit
    exact bit.symm
  · intro alike
    have same : (w % 65536).toNat = (w' % 65536).toNat := by
      apply Nat.eq_of_testBit_eq
      intro k
      rw [testBit_low, testBit_low]
      by_cases low : k < 16
      · rw [alike k low]
      · rw [decide_eq_false low, Bool.false_and, Bool.false_and]
    omega

/-- A mask of sixteen bits leaves what it leaves of the lowest sixteen bits of a word. -/
theorem and_low (w : Int) {mask : Int} (nonneg : 0 ≤ mask) (short : mask < 65536) :
  and w mask = ((w % 65536).toNat &&& mask.toNat : Nat)
  := by
  obtain ⟨m, rfl⟩ := Int.eq_ofNat_of_zero_le nonneg
  have short : m < Nat.pow 2 16 := Int.ofNat_lt.mp short
  apply eq_of_test_eq
  intro k
  rw [test_and]
  show (test w k && m.testBit k) = ((w % 65536).toNat &&& m).testBit k
  rw [Nat.testBit_and, testBit_low]
  by_cases low : k < 16
  · rw [decide_eq_true low, Bool.true_and]
  · have high : m < Nat.pow 2 k :=
      Nat.lt_of_lt_of_le short (Nat.pow_le_pow_right (by decide) (Nat.le_of_not_lt low))
    have absent : m.testBit k = false := Nat.testBit_lt_two_pow high
    rw [absent, Bool.and_false, Bool.and_false]

/-- A row of bits in the lowest sixteen is left by its mask and moved to the lowest bits. -/
theorem and_row (w : Int) (k j : Nat) (short : (Nat.pow 2 j - 1) <<< k < 65536) :
  and w ((Nat.pow 2 j - 1) <<< k : Nat) >>> k =
    ((w % 65536).toNat / Nat.pow 2 k % Nat.pow 2 j : Nat)
  := by
  rw [and_low w (Int.natCast_nonneg _) (Int.ofNat_lt.mpr short), Int.toNat_natCast]
  show ((((w % 65536).toNat &&& (Nat.pow 2 j - 1) <<< k) >>> k : Nat) : Int) = _
  rw [Nat.shiftRight_and_distrib, Nat.shiftLeft_shiftRight, Nat.shiftRight_eq_div_pow]
  exact congrArg Nat.cast (Nat.and_two_pow_sub_one_eq_mod _ j)

end Bits

/-! ### Fields -/

namespace Field

/-- The position of the lowest bit of a field. -/
def lowest : Field → Nat
  | .x => 8
  | .y => 4
  | .word | .n | .kk | .nnn => 0

/-- The number of nibbles of a field. A word may have any number of them. -/
def nibbles : Field → Nat
  | .word => 0
  | .x | .y | .n => 1
  | .kk => 2
  | .nnn => 3

/-- Whether the bit at a position of a word belongs to a field. -/
def shows (f : Field) (k : Nat) : Bool := f.lowest ≤ k && k < f.lowest + 4 * f.nibbles

end Field

/-- A field is a row of bits. -/
theorem Opcode.field_eq (w : Int) {f : Field} (narrow : f.nibbles ≠ 0) :
  (ofWord w).field f = ((w % 65536).toNat >>> f.lowest % Nat.pow 16 f.nibbles : Nat)
  := by
  cases f with
  | word => exact absurd rfl narrow
  | _ => simp [field, ofWord, Field.lowest, Field.nibbles, Nat.shiftRight_eq_div_pow]

/-- The bits of a field are those of the word. -/
theorem Opcode.testBit_field (w : Int) {f : Field} {k : Nat} (low : k < 16)
    (shown : f.shows k = true) :
  ((ofWord w).field f).toNat.testBit (k - f.lowest) = Bits.test w k
  := by
  rw [Field.shows, Bool.and_eq_true, decide_eq_true_iff, decide_eq_true_iff] at shown
  obtain ⟨above, below⟩ := shown
  have row : Nat.pow 16 f.nibbles = Nat.pow 2 (4 * f.nibbles) := (Nat.pow_mul 2 4 f.nibbles).symm
  have bit := Nat.testBit_mod_two_pow ((w % 65536).toNat >>> f.lowest) (4 * f.nibbles) (k - f.lowest)
  change (_ % Nat.pow 2 (4 * f.nibbles)).testBit _ = _ at bit
  rw [field_eq w (by omega), Int.toNat_natCast, row, bit, decide_eq_true (by omega), Bool.true_and,
    Nat.testBit_shiftRight, Nat.add_sub_cancel' above, Bits.testBit_low, decide_eq_true low,
    Bool.true_and]

/-- The fields of a word are what masks leave of it, moved to the lowest bits. -/
theorem Opcode.ofWord_masks (w : Int) :
  let op := ofWord w
  (op.x.val : Int) = Bits.and w 0xf00 >>> (8 : Nat) ∧
    (op.y.val : Int) = Bits.and w 0xf0 >>> (4 : Nat) ∧
    (op.n : Int) = Bits.and w 0xf ∧ (op.kk : Int) = Bits.and w 0xff ∧
    (op.nnn : Int) = Bits.and w 0xfff
  := by
  have last : ∀ j : Nat, Nat.pow 2 j - 1 < 65536 →
      Bits.and w (Nat.pow 2 j - 1 : Nat) = ((w % 65536).toNat % Nat.pow 2 j : Nat) := by
    intro j short
    rw [Bits.and_low w (Int.natCast_nonneg _) (Int.ofNat_lt.mpr short), Int.toNat_natCast]
    exact congrArg Nat.cast (Nat.and_two_pow_sub_one_eq_mod _ j)
  refine ⟨(Bits.and_row w 8 4 (by decide)).symm, (Bits.and_row w 4 4 (by decide)).symm,
    (last 4 (by decide)).symm, (last 8 (by decide)).symm, (last 12 (by decide)).symm⟩

/-- The fields of a word are those of its lowest sixteen bits. -/
theorem Opcode.ofWord_eq_low (w : Int) :
  ofWord w = { ofWord (w % 65536) with word := w }
  := by
  simp only [ofWord, Int.emod_emod]

/-! ### Texts -/

/-- Whether a piece takes as many characters for every word. -/
def Piece.isFixed : Piece → Bool
  | .text _ => true
  | .field _ .decimal => false
  | .field f (.hex width) => f.nibbles == max width 1

/-- A zero in the place of a hexadecimal digit. -/
def blot (c : Char) : Char := if Hex.isDigit c then '0' else c

/-- A text with zeros in the places of hexadecimal digits. -/
def blotted (s : String) : List Char := s.toList.map blot

/-- A fixed piece with zeros in the places of hexadecimal digits. -/
def Piece.outline : Piece → List Char
  | .text s => blotted s
  | .field f _ => List.replicate f.nibbles '0'

/-- Whether a piece shows the bit at a position of a word. -/
def Piece.shows : Piece → Nat → Bool
  | .text _, _ => false
  | .field f _, k => f.shows k

/-- A mnemonic of fixed pieces with zeros in the places of hexadecimal digits. -/
def Mnemonic.outline (m : Mnemonic) : List Char := m.flatMap Piece.outline

namespace Piece

variable {p : Piece} {w w' : Int}

/-- A fixed piece shows its field to the last nibble, and nothing else. -/
theorem describe_eq_padded {f : Field} {style : Style} (fixed : (field f style).isFixed = true) :
  ∃ (width n : Nat), f.nibbles = max width 1 ∧ (Opcode.ofWord w).field f = n ∧
    n < Nat.pow 16 (max width 1) ∧ (field f style).describe (.ofWord w) = Hex.padded width n
  := by
  cases style with
  | decimal => cases fixed
  | hex width =>
      have nibbles : f.nibbles = max width 1 := beq_iff_eq.mp fixed
      use width, (w % 65536).toNat >>> f.lowest % Nat.pow 16 f.nibbles, nibbles
      have value := Opcode.field_eq w (f := f) (by omega)
      use value
      rw [describe, value, nibbles]
      exact ⟨Nat.mod_lt _ (Nat.pow_pos (by decide)), rfl⟩

/-- Whatever the word, the digits of a fixed piece have their places. -/
theorem blotted_describe (fixed : p.isFixed = true) (w : Int) :
  blotted (p.describe (.ofWord w)) = p.outline
  := by
  cases p with
  | text s => rfl
  | field f style =>
      obtain ⟨width, n, nibbles, -, small, described⟩ := describe_eq_padded (w := w) fixed
      rw [described, blotted, outline, List.eq_replicate_iff, List.length_map,
        Hex.length_padded small, nibbles]
      use rfl
      intro c member
      obtain ⟨d, digit, rfl⟩ := List.mem_map.mp member
      rcases Hex.mem_padded digit with ⟨-, negative⟩ | digit
      · omega
      · exact if_pos digit

/-- A fixed piece tells its field. -/
theorem field_eq_of_describe_eq {f : Field} {style : Style} {w w' : Int}
    (fixed : (field f style).isFixed = true)
    (same : (field f style).describe (.ofWord w) = (field f style).describe (.ofWord w')) :
  (Opcode.ofWord w).field f = (Opcode.ofWord w').field f
  := by
  cases style with
  | decimal => cases fixed
  | hex width => exact Hex.padded_injective same

theorem describe_congr (fixed : p.isFixed = true) (same : w % 65536 = w' % 65536) :
  p.describe (.ofWord w) = p.describe (.ofWord w')
  := by
  cases p with
  | text s => rfl
  | field f style =>
      obtain ⟨width, n, nibbles, -⟩ := describe_eq_padded (w := w) fixed
      have narrow : f.nibbles ≠ 0 := by omega
      rw [describe, Opcode.field_eq w narrow, same, ← Opcode.field_eq w' narrow, describe]

end Piece

namespace Mnemonic

variable {m : Mnemonic}

theorem toList_describe (m : Mnemonic) (op : Opcode) :
  (m.describe op).toList = m.flatMap fun p => (p.describe op).toList
  := by
  rw [describe, String.toList_join, List.flatMap_map]

/-- Whatever the word, the digits of a fixed mnemonic have their places. -/
theorem blotted_describe (fixed : ∀ p ∈ m, p.isFixed = true) (w : Int) :
  blotted (m.describe (.ofWord w)) = m.outline
  := by
  rw [blotted, toList_describe, List.map_flatMap, outline]
  apply List.flatMap_congr
  intro p member
  exact p.blotted_describe (fixed p member) w

/-- A text is divided into the pieces of a fixed mnemonic in one way. -/
theorem describe_injective (fixed : ∀ p ∈ m, p.isFixed = true) {w w' : Int}
    (same : m.describe (.ofWord w) = m.describe (.ofWord w')) :
  ∀ p ∈ m, p.describe (.ofWord w) = p.describe (.ofWord w')
  := by
  induction m with
  | nil => exact fun p none => nomatch none
  | cons p m ih =>
      have same := congrArg String.toList same
      rw [toList_describe, toList_describe, List.flatMap_cons, List.flatMap_cons] at same
      obtain ⟨first, others⟩ := List.forall_mem_cons.mp fixed
      have long : (p.describe (.ofWord w)).toList.length = (p.describe (.ofWord w')).toList.length := by
        have key := congrArg List.length
          ((p.blotted_describe first w).trans (p.blotted_describe first w').symm)
        simpa only [blotted, List.length_map] using key
      obtain ⟨here, there⟩ := List.append_inj same long
      rw [List.forall_mem_cons]
      rw [← toList_describe, ← toList_describe] at there
      exact ⟨String.toList_injective here, ih others (String.toList_injective there)⟩

/-- A fixed mnemonic can be written for every word. -/
theorem describe?_eq (fixed : ∀ p ∈ m, p.isFixed = true) (op : Opcode) :
  m.describe? op = some (m.describe op)
  := by
  have written : m.all (Piece.canDescribe op) = true := by
    rw [List.all_eq_true]
    intro p member
    cases p with
    | text s => rfl
    | field f style =>
        cases style with
        | decimal => cases fixed _ member
        | hex width => rfl
  rw [describe?, written, if_pos rfl]

end Mnemonic

/-! ### The instruction set -/

namespace Instruction

/-- What the words of an instruction have at its mask. -/
def mask (i : Instruction) : Int := i.entry.matcher.mask

/-- The mnemonic of an instruction. -/
def mnemonic (i : Instruction) : Mnemonic := i.entry.mnemonic

theorem isFixed_mnemonic (i : Instruction) :
  ∀ p ∈ i.mnemonic, p.isFixed = true
  := by
  have fixed : ∀ i ∈ all, ∀ p ∈ i.mnemonic, p.isFixed = true := by decide
  exact fixed i (mem_all i)

theorem mask_bounds (i : Instruction) :
  0 ≤ i.mask ∧ i.mask < 65536
  := by
  have bounds : ∀ i ∈ all, 0 ≤ i.mask ∧ i.mask < 65536 := by decide
  exact bounds i (mem_all i)

/-- Digits apart, no two instructions are written alike. -/
theorem outline_injective {i j : Instruction} (same : i.mnemonic.outline = j.mnemonic.outline) :
  i = j
  := by
  have different : (all.map fun i => i.mnemonic.outline).Nodup := by decide
  exact List.inj_on_of_nodup_map different (mem_all i) (mem_all j) same

/-- Each bit of a word is tested by the mask of its instruction or shown in its text. -/
theorem covers (i : Instruction) {k : Nat} (low : k < 16) :
  Bits.test i.mask k = true ∨ ∃ p ∈ i.mnemonic, p.shows k = true
  := by
  have covered : ∀ i ∈ all, ∀ k < 16,
      Bits.test i.mask k = true ∨ ∃ p ∈ i.mnemonic, p.shows k = true := by decide
  exact covered i (mem_all i) k low

/-- The mask of an instruction leaves its pattern of its words. -/
theorem test_of_accepts {i : Instruction} {w w' : Int} (h : i.accepts w = true)
    (h' : i.accepts w' = true) {k : Nat} (tested : Bits.test i.mask k = true) :
  Bits.test w k = Bits.test w' k
  := by
  have same : Bits.and w i.mask = Bits.and w' i.mask :=
    (beq_iff_eq.mp h).trans (beq_iff_eq.mp h').symm
  have bit := congrArg (Bits.test · k) same
  simpa only [Bits.test_and, tested, Bool.and_true] using bit

theorem accepts_low (i : Instruction) (w : Int) :
  i.accepts (w % 65536) = i.accepts w
  := by
  obtain ⟨nonneg, short⟩ := i.mask_bounds
  have same : Bits.and (w % 65536) i.mask = Bits.and w i.mask := by
    rw [Bits.and_low _ nonneg short, Bits.and_low _ nonneg short, Int.emod_emod]
  exact congrArg (· == i.entry.matcher.pattern) same

theorem ofWord?_low (w : Int) :
  ofWord? (w % 65536) = ofWord? w
  := by
  simp only [ofWord?, accepts_low]

/-- The text of an instruction tells its word. -/
theorem describe_eq_iff {i j : Instruction} {w w' : Int} (h : i.accepts w = true)
    (h' : j.accepts w' = true) :
  i.mnemonic.describe (.ofWord w) = j.mnemonic.describe (.ofWord w') ↔ w % 65536 = w' % 65536
  := by
  constructor
  · intro same
    obtain rfl : i = j := by
      apply outline_injective
      rw [← Mnemonic.blotted_describe i.isFixed_mnemonic w, same,
        Mnemonic.blotted_describe j.isFixed_mnemonic w']
    have pieces := Mnemonic.describe_injective i.isFixed_mnemonic same
    rw [Bits.low_eq_iff]
    intro k low
    rcases i.covers low with tested | ⟨p, member, shown⟩
    · exact test_of_accepts h h' tested
    · cases p with
      | text s => cases shown
      | field f style =>
          have fixed := i.isFixed_mnemonic _ member
          have field := Piece.field_eq_of_describe_eq fixed (pieces _ member)
          rw [← Opcode.testBit_field w low shown, field, Opcode.testBit_field w' low shown]
  · intro same
    have alike := ofWord?_low w
    rw [same, ofWord?_low, (ofWord?_eq_some_iff w i).mpr h, (ofWord?_eq_some_iff w' j).mpr h'] at alike
    obtain rfl := Option.some.inj alike
    have pieces : ∀ p ∈ j.mnemonic, p.describe (.ofWord w) = p.describe (.ofWord w') :=
      fun p member => p.describe_congr (j.isFixed_mnemonic p member) same
    rw [Mnemonic.describe, Mnemonic.describe, List.map_congr_left pieces]

/-- An instruction does not look at its word beside the fields. -/
theorem execute_word (i : Instruction) (op : Opcode) (word : Int) :
  Action.execute i { op with word := word } = Action.execute i op
  := by
  cases i <;> rfl

theorem execute_low (i : Instruction) (w : Int) :
  Action.execute i (.ofWord w) = Action.execute i (.ofWord (w % 65536))
  := by
  rw [Opcode.ofWord_eq_low w, execute_word]

/-- A word that is found in the table belongs to an instruction. -/
theorem accepts_of_lookup {w : Int} {e : Entry Instruction} (found : table.lookup w = .ok e) :
  ∃ i : Instruction, e = i.entry ∧ i.accepts w = true
  := by
  rw [lookup_eq] at found
  cases known : ofWord? w with
  | none =>
      rw [known] at found
      cases found
  | some i =>
      rw [known] at found
      exact ⟨i, (Except.ok.inj found).symm, (ofWord?_eq_some_iff w i).mp known⟩

/-- The texts of two words that have instructions can be written, and they are equal exactly if the
words agree in their lowest sixteen bits. These are all that matters of a word: it has the
instruction that they have, or none if they have none; its fields, which masks leave of it, are those
of its lowest sixteen bits; and its instruction does the same to every machine. -/
theorem disassembly_unambiguous :
  (∀ (w w' : Int) (e e' : Entry Instruction), table.lookup w = .ok e → table.lookup w' = .ok e' →
    ∃ text text', e.mnemonic.describe? (.ofWord w) = some text ∧
      e'.mnemonic.describe? (.ofWord w') = some text' ∧
      (text = text' ↔ w % 65536 = w' % 65536)) ∧
  ∀ w : Int,
    let op := Opcode.ofWord w
    ((∃ e, table.lookup w = .ok e) ↔ ∃ e, table.lookup (w % 65536) = .ok e) ∧
    ((op.x.val : Int) = Bits.and w 0xf00 >>> (8 : Nat) ∧
      (op.y.val : Int) = Bits.and w 0xf0 >>> (4 : Nat) ∧
      (op.n : Int) = Bits.and w 0xf ∧ (op.kk : Int) = Bits.and w 0xff ∧
      (op.nnn : Int) = Bits.and w 0xfff) ∧
    op = { Opcode.ofWord (w % 65536) with word := w } ∧
    ∀ e, table.lookup w = .ok e →
      table.lookup (w % 65536) = .ok e ∧
      ∀ m : Machine,
        Action.execute e.meaning op m = Action.execute e.meaning (.ofWord (w % 65536)) m
  := by
  constructor
  · intro w w' e e' found found'
    obtain ⟨i, rfl, accepted⟩ := accepts_of_lookup found
    obtain ⟨j, rfl, accepted'⟩ := accepts_of_lookup found'
    use i.mnemonic.describe (.ofWord w), j.mnemonic.describe (.ofWord w'),
      Mnemonic.describe?_eq i.isFixed_mnemonic _, Mnemonic.describe?_eq j.isFixed_mnemonic _
    exact describe_eq_iff accepted accepted'
  · intro w op
    have found : ∀ e, table.lookup w = .ok e → table.lookup (w % 65536) = .ok e := by
      intro e found
      obtain ⟨i, rfl, accepted⟩ := accepts_of_lookup found
      rw [← accepts_low] at accepted
      rw [lookup_eq, (ofWord?_eq_some_iff _ i).mpr accepted]
    refine ⟨⟨?_, ?_⟩, Opcode.ofWord_masks w, Opcode.ofWord_eq_low w, ?_⟩
    · rintro ⟨e, known⟩
      exact ⟨e, found e known⟩
    · rintro ⟨e, known⟩
      obtain ⟨i, rfl, accepted⟩ := accepts_of_lookup known
      rw [accepts_low] at accepted
      use i.entry
      rw [lookup_eq, (ofWord?_eq_some_iff _ i).mpr accepted]
    · intro e known
      use found e known
      intro m
      exact congrFun (execute_low e.meaning w) m

/-- A negative word and one of more than sixteen bits have the same text. -/
theorem disassembly_unambiguous_negative :
  table.lookup (0x6a12 - 0x10000) = .ok loadByte.entry ∧
    table.lookup (0x6a12 + 0x10000) = .ok loadByte.entry ∧
    (∃ text, loadByte.entry.mnemonic.describe? (.ofWord (0x6a12 - 0x10000)) = some text ∧
      loadByte.entry.mnemonic.describe? (.ofWord (0x6a12 + 0x10000)) = some text) ∧
    table.lookup ((0x6a12 - 0x10000) % 65536) = .ok loadByte.entry
  := by
  have known : table.lookup (0x6a12 - 0x10000) = .ok loadByte.entry ∧
      table.lookup (0x6a12 + 0x10000) = .ok loadByte.entry := by decide
  obtain ⟨first, second⟩ := known
  obtain ⟨text, text', written, written', same⟩ :=
    disassembly_unambiguous.1 _ _ _ _ first second
  obtain rfl := same.mpr (by decide)
  exact ⟨first, second, ⟨text, written, written'⟩, (disassembly_unambiguous.2 _).2.2.2 _ first |>.1⟩

end Instruction

end Chip8
