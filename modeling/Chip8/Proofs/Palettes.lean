import Chip8.Host.Display
import Mathlib.Algebra.Group.Nat.Defs
import Mathlib.Data.List.Forall2
import Mathlib.Data.List.GetD

/-!
# Palettes and their colours

A palette should be spelled as one or two colours of six hexadecimal digits (`Palette.Spells`), and
such a text gives the window the colours that it spells. But the colours are read as numbers, which
may have signs, blanks, a mark, underscores and the digits of other scripts, so that other texts of
six characters are accepted, too, and those of negative numbers are refused without a report
(`Window.create_reads`). The two readings agree on texts without such characters
(`Palette.Spells.plain`, `Palette.Reads.exists_spells`).
-/

namespace Chip8

/-! ### Numbers in base sixteen -/

namespace Numeral

/-- The value of a hexadecimal digit. -/
def hexDigit? (c : Char) : Option Nat :=
  if '0' ≤ c && c ≤ '9' then some (c.toNat - '0'.toNat) else letterValue? c

/-- The characters beside hexadecimal digits that may occur in a number: blanks, signs, the
underscore, the letter of the mark, and the digits of other scripts. -/
def isExtra (c : Char) : Bool :=
  Digit.isBlank c || c ∈ ['+', '-', '_', 'x', 'X'] ||
    (Digit.value? c).isSome && !('0' ≤ c && c ≤ '9')

theorem toNat_of_decimal {c : Char} (h : ('0' ≤ c && c ≤ '9') = true) :
  48 ≤ c.toNat ∧ c.toNat ≤ 57
  := by
  rw [Bool.and_eq_true, decide_eq_true_eq, decide_eq_true_eq] at h
  exact h

theorem toNat_of_letterValue? {c : Char} {d : Nat} (h : letterValue? c = some d) :
  (97 ≤ c.toNat ∧ c.toNat ≤ 102 ∨ 65 ≤ c.toNat ∧ c.toNat ≤ 70) ∧ d < 16
  := by
  have small : ('a'.toNat = 97 ∧ 'f'.toNat = 102) ∧ 'A'.toNat = 65 ∧ 'F'.toNat = 70 := by decide
  rw [letterValue?] at h
  split at h
  · next range =>
      rw [Bool.and_eq_true, decide_eq_true_eq, decide_eq_true_eq] at range
      have low : 97 ≤ c.toNat := range.1
      have high : c.toNat ≤ 102 := range.2
      obtain rfl := Option.some.inj h
      omega
  · split at h
    · next range =>
        rw [Bool.and_eq_true, decide_eq_true_eq, decide_eq_true_eq] at range
        have low : 65 ≤ c.toNat := range.1
        have high : c.toNat ≤ 70 := range.2
        obtain rfl := Option.some.inj h
        omega
    · cases h

/-- The ten digits of the first script have the values of their places. -/
theorem value?_of_decimal {c : Char} (h : ('0' ≤ c && c ≤ '9') = true) :
  Digit.value? c = some (c.toNat - '0'.toNat)
  := by
  have range := toNat_of_decimal h
  have first : Digit.zeros.find? (fun z => z ≤ c.toNat && c.toNat < z + 10) = some 0x30 := by
    apply List.find?_cons_of_pos
    rw [Bool.and_eq_true, decide_eq_true_eq, decide_eq_true_eq]
    omega
  rw [Digit.value?, first]
  rfl

/-- Without extra characters, the digits of a number are the hexadecimal ones. -/
theorem digit?_of_plain {c : Char} (plain : isExtra c = false) :
  digit? true c = hexDigit? c
  := by
  rw [digit?, hexDigit?]
  by_cases decimal : ('0' ≤ c && c ≤ '9') = true
  · rw [value?_of_decimal decimal, if_pos decimal]
  · rw [if_neg decimal]
    have none : Digit.value? c = none := by
      cases value : Digit.value? c with
      | none => rfl
      | some d =>
          rw [isExtra, value] at plain
          simp [decimal] at plain
    rw [none]
    rfl

/-- The digits of other scripts come later. -/
theorem zeros_cases :
  ∀ z ∈ Digit.zeros, z = 0x30 ∨ 0x660 ≤ z
  := by decide +kernel

theorem extra_cases {c : Char} (extra : c ∈ ['+', '-', '_', 'x', 'X']) :
  c.toNat ∈ [43, 45, 95, 120, 88]
  := by
  simp only [List.mem_cons, List.not_mem_nil, or_false] at extra
  rcases extra with rfl | rfl | rfl | rfl | rfl <;> decide

/-- A hexadecimal digit is no extra character. -/
theorem plain_of_hexDigit? {c : Char} {d : Nat} (h : hexDigit? c = some d) :
  isExtra c = false
  := by
  have range : 48 ≤ c.toNat ∧ c.toNat ≤ 57 ∨
      97 ≤ c.toNat ∧ c.toNat ≤ 102 ∨ 65 ≤ c.toNat ∧ c.toNat ≤ 70 := by
    rw [hexDigit?] at h
    split at h
    · next decimal => exact .inl (toNat_of_decimal decimal)
    · exact .inr (toNat_of_letterValue? h).1
  have blank : Digit.isBlank c = false := by
    rw [← Bool.not_eq_true]
    intro blank
    simp only [Digit.isBlank, Bool.or_eq_true, Bool.and_eq_true, decide_eq_true_eq,
      beq_iff_eq] at blank
    omega
  have sign : c ∉ ['+', '-', '_', 'x', 'X'] := by
    intro member
    have codes := extra_cases member
    simp only [List.mem_cons, List.not_mem_nil, or_false] at codes
    omega
  have foreign : ('0' ≤ c && c ≤ '9') = false → Digit.value? c = none := by
    intro letter
    rw [Digit.value?, Option.map_eq_none_iff, List.find?_eq_none]
    intro z member found
    rw [Bool.and_eq_true, decide_eq_true_eq, decide_eq_true_eq] at found
    rcases zeros_cases z member with rfl | late
    · have decimal : ('0' ≤ c && c ≤ '9') = true := by
        rw [Bool.and_eq_true, decide_eq_true_eq, decide_eq_true_eq]
        exact ⟨found.1, Nat.lt_succ_iff.mp found.2⟩
      rw [letter] at decimal
      cases decimal
    · omega
  rw [isExtra, blank, decide_eq_false sign]
  cases decimal : ('0' ≤ c && c ≤ '9') with
  | true => simp
  | false => rw [foreign decimal]; rfl

section

variable {cs : List Char} {ds : List Nat}

theorem hexadecimal?_ofList :
  hexadecimal? (String.ofList cs) =
    (digits? true (dropMark (splitSign (trim cs)).2)).bind fun ds =>
      some (withSign (splitSign (trim cs)).1 (ofDigits 16 ds))
  := by
  rw [hexadecimal?, String.toList_ofList]
  rfl

/-! ### Texts without extra characters -/

theorem blank_of_plain {c : Char} (plain : isExtra c = false) :
  Digit.isBlank c = false
  := by
  rw [isExtra, Bool.or_eq_false_iff, Bool.or_eq_false_iff] at plain
  exact plain.1.1

theorem ne_of_plain {c c' : Char} (plain : isExtra c = false)
    (extra : c' ∈ ['+', '-', '_', 'x', 'X']) :
  c ≠ c'
  := by
  rintro rfl
  rw [isExtra, Bool.or_eq_false_iff, Bool.or_eq_false_iff] at plain
  exact of_decide_eq_false plain.1.2 extra

theorem trim_of_plain (plain : ∀ c ∈ cs, isExtra c = false) :
  trim cs = cs
  := by
  have kept : ∀ cs : List Char, (∀ c ∈ cs, isExtra c = false) →
      cs.dropWhile Digit.isBlank = cs := by
    intro cs plain
    cases cs with
    | nil => rfl
    | cons c cs =>
        have first := blank_of_plain (plain c List.mem_cons_self)
        apply List.dropWhile_cons_of_neg (Bool.not_eq_true _ ▸ first)
  rw [trim, kept cs plain, kept, List.reverse_reverse]
  intro c here
  exact plain c (List.mem_reverse.mp here)

theorem splitSign_of_plain (plain : ∀ c ∈ cs, isExtra c = false) :
  splitSign cs = (false, cs)
  := by
  unfold splitSign
  split
  · exact absurd rfl (ne_of_plain (plain '-' List.mem_cons_self) (by decide))
  · exact absurd rfl (ne_of_plain (plain '+' List.mem_cons_self) (by decide))
  · rfl

theorem dropMark_of_plain (plain : ∀ c ∈ cs, isExtra c = false) :
  dropMark cs = cs
  := by
  unfold dropMark
  split
  · next zero x rest =>
      have second := plain x (List.mem_cons_of_mem zero List.mem_cons_self)
      apply if_neg
      rintro ⟨-, mark | mark⟩
      · exact ne_of_plain second (by decide) mark
      · exact ne_of_plain second (by decide) mark
  · rfl

/-- A row of digits is read digit by digit, unless there are underscores. -/
theorem moreDigits?_eq_some_iff (plain : ∀ c ∈ cs, isExtra c = false) :
  moreDigits? true cs = some ds ↔ cs.map hexDigit? = ds.map some
  := by
  induction cs generalizing ds with
  | nil =>
      rw [moreDigits?, Option.some.injEq, eq_comm, List.map_nil, eq_comm (a := []),
        List.map_eq_nil_iff]
  | cons c cs ih =>
      obtain ⟨first, rest⟩ := List.forall_mem_cons.mp plain
      have apart : c ≠ '_' := ne_of_plain first (by decide)
      have read : moreDigits? true (c :: cs) =
          (hexDigit? c).bind fun d => (moreDigits? true cs).bind fun ds => some (d :: ds) := by
        rw [moreDigits?, digit?_of_plain first]
        · rfl
        · rintro c' rest' rfl
          exact absurd rfl apart
      rw [read, Option.bind_eq_some_iff]
      constructor
      · rintro ⟨d, here, more⟩
        obtain ⟨ds', later, same⟩ := Option.bind_eq_some_iff.mp more
        rw [← Option.some.inj same, List.map_cons, here, (ih rest).mp later, List.map_cons]
      · intro same
        cases ds with
        | nil => cases same
        | cons d ds =>
            obtain ⟨here, later⟩ := List.cons.inj same
            refine ⟨d, here, ?_⟩
            rw [(ih rest).mpr later, Option.bind_some]

/-- Without extra characters, a number is a row of hexadecimal digits. -/
theorem hexadecimal?_eq_some_iff (plain : ∀ c ∈ cs, isExtra c = false) (some : cs ≠ [])
    {code : Int} :
  hexadecimal? (String.ofList cs) = .some code ↔
    ∃ ds, cs.map hexDigit? = ds.map .some ∧ (ofDigits 16 ds : Int) = code
  := by
  have read : digits? true cs = moreDigits? true cs := by
    cases cs with
    | nil => exact absurd rfl some
    | cons c cs =>
        have apart : c ≠ '_' := ne_of_plain (plain c List.mem_cons_self) (by decide)
        rw [digits?, moreDigits?]
        rintro c' rest' rfl
        exact absurd rfl apart
  rw [hexadecimal?_ofList, trim_of_plain plain, splitSign_of_plain plain, dropMark_of_plain plain,
    read, Option.bind_eq_some_iff]
  apply exists_congr
  intro ds
  rw [moreDigits?_eq_some_iff plain, Option.some.injEq]
  rfl

/-! ### Sizes -/

theorem length_trim_le (cs : List Char) :
  (trim cs).length ≤ cs.length
  := by
  have kept (cs : List Char) := (List.dropWhile_sublist (l := cs) Digit.isBlank).length_le
  calc (trim cs).length
      = ((cs.dropWhile Digit.isBlank).reverse.dropWhile Digit.isBlank).length :=
        List.length_reverse
    _ ≤ (cs.dropWhile Digit.isBlank).reverse.length := kept _
    _ = (cs.dropWhile Digit.isBlank).length := List.length_reverse
    _ ≤ cs.length := kept cs

theorem length_splitSign_le (cs : List Char) :
  (splitSign cs).2.length ≤ cs.length
  := by
  unfold splitSign
  split
  · exact Nat.le_succ _
  · exact Nat.le_succ _
  · exact Nat.le_refl _

theorem length_dropMark_le (cs : List Char) :
  (dropMark cs).length ≤ cs.length
  := by
  unfold dropMark
  split
  · split
    · split
      · simp only [List.length_cons]
        omega
      · simp only [List.length_cons]
        omega
    · exact Nat.le_refl _
  · exact Nat.le_refl _

theorem digit?_lt {c : Char} {d : Nat} (h : digit? true c = some d) :
  d < 16
  := by
  rw [digit?] at h
  split at h
  · next d' decimal =>
      have small := Digit.value?_lt decimal
      obtain rfl := Option.some.inj h
      omega
  · exact (toNat_of_letterValue? h).2

/-- A digit with further ones is read in two parts. -/
theorem digit_cons_eq_some {first : Option Nat} {rest : Option (List Nat)}
    (h : (do return (← first) :: (← rest)) = some ds) :
  ∃ d ds', first = some d ∧ rest = some ds' ∧ d :: ds' = ds
  := by
  obtain ⟨d, here, more⟩ := Option.bind_eq_some_iff.mp h
  obtain ⟨ds', later, same⟩ := Option.bind_eq_some_iff.mp more
  exact ⟨d, ds', here, later, Option.some.inj same⟩

/-- The digits are at most as many as the characters. -/
theorem moreDigits?_bounds (h : moreDigits? true cs = some ds) :
  ds.length ≤ cs.length ∧ ∀ d ∈ ds, d < 16
  := by
  fun_induction moreDigits? true cs generalizing ds with
  | case1 =>
      obtain rfl := Option.some.inj h
      exact ⟨Nat.le_refl 0, fun d here => nomatch here⟩
  | case2 c rest ih =>
      obtain ⟨d, ds', here, later, rfl⟩ := digit_cons_eq_some h
      obtain ⟨short, small⟩ := ih later
      use Nat.succ_le_succ (Nat.le_succ_of_le short)
      exact List.forall_mem_cons.mpr ⟨digit?_lt here, small⟩
  | case3 c rest _ ih =>
      obtain ⟨d, ds', here, later, rfl⟩ := digit_cons_eq_some h
      obtain ⟨short, small⟩ := ih later
      use Nat.succ_le_succ short
      exact List.forall_mem_cons.mpr ⟨digit?_lt here, small⟩

theorem digits?_bounds (h : digits? true cs = some ds) :
  ds.length ≤ cs.length ∧ ∀ d ∈ ds, d < 16
  := by
  cases cs with
  | nil => cases h
  | cons c rest =>
      obtain ⟨d, ds', here, later, rfl⟩ := digit_cons_eq_some h
      obtain ⟨short, small⟩ := moreDigits?_bounds later
      use Nat.succ_le_succ short
      exact List.forall_mem_cons.mpr ⟨digit?_lt here, small⟩

/-- A number with few digits is small. -/
theorem ofDigits_lt (small : ∀ d ∈ ds, d < 16) :
  ofDigits 16 ds < 16 ^ ds.length
  := by
  have key : ∀ n, ds.foldl (fun n d => n * 16 + d) n < (n + 1) * 16 ^ ds.length := by
    induction ds with
    | nil =>
        intro n
        rw [List.foldl_nil, List.length_nil]
        omega
    | cons d ds ih =>
        intro n
        obtain ⟨first, rest⟩ := List.forall_mem_cons.mp small
        calc ds.foldl (fun n d => n * 16 + d) (n * 16 + d)
            < (n * 16 + d + 1) * 16 ^ ds.length := ih rest _
          _ ≤ (n + 1) * 16 * 16 ^ ds.length := Nat.mul_le_mul_right _ (by omega)
          _ = (n + 1) * 16 ^ (ds.length + 1) := by rw [Nat.mul_assoc, Nat.pow_succ']
  rw [← Nat.one_mul (16 ^ ds.length)]
  apply key 0

theorem withSign_le (negative : Bool) (n : Nat) :
  withSign negative n ≤ n
  := by
  rw [withSign]
  split
  · omega
  · exact Int.le_refl _

/-- A number that is written with few characters is small. -/
theorem hexadecimal?_lt {code : Int} (h : hexadecimal? (String.ofList cs) = some code) :
  code < (16 ^ cs.length : Nat)
  := by
  rw [hexadecimal?_ofList] at h
  obtain ⟨ds, read, same⟩ := Option.bind_eq_some_iff.mp h
  obtain ⟨short, small⟩ := digits?_bounds read
  have shorter : ds.length ≤ cs.length :=
    calc ds.length
        ≤ (dropMark (splitSign (trim cs)).2).length := short
      _ ≤ (splitSign (trim cs)).2.length := length_dropMark_le _
      _ ≤ (trim cs).length := length_splitSign_le _
      _ ≤ cs.length := length_trim_le cs
  have bound : ofDigits 16 ds < 16 ^ cs.length :=
    Nat.lt_of_lt_of_le (ofDigits_lt small) (Nat.pow_le_pow_right (by decide) shorter)
  have unsigned := withSign_le (splitSign (trim cs)).1 (ofDigits 16 ds)
  rw [← Option.some.inj same]
  omega

end

end Numeral

/-! ### Colours -/

namespace Colour

variable {part : List Char} {c : Colour} {code : Int}

/-- Six hexadecimal digits spell a colour, two for each component. -/
def Spells (part : List Char) (c : Colour) : Prop :=
  ∃ r r' g g' b b' : Nat, part.map Numeral.hexDigit? = [r, r', g, g', b, b'].map some ∧
    c = ⟨16 * r + r', 16 * g + g', 16 * b + b'⟩

/-- A colour is divided from a number, one byte for each component. -/
structure DividedFrom (code : Int) (c : Colour) : Prop where
  red : c.red < 256
  green : c.green < 256
  blue : c.blue < 256
  sum : code = 65536 * c.red + 256 * c.green + c.blue

/-- Six characters are read as a number. -/
def Reads (part : List Char) (code : Int) : Prop :=
  part.length = 6 ∧ Numeral.hexadecimal? (String.ofList part) = some code

theorem DividedFrom.unique {c' : Colour} (h : DividedFrom code c) (h' : DividedFrom code c') :
  c = c'
  := by
  obtain ⟨r, g, b⟩ := c
  obtain ⟨r', g', b'⟩ := c'
  obtain ⟨red, green, blue, sum⟩ := h
  obtain ⟨red', green', blue', sum'⟩ := h'
  dsimp only at *
  rw [Colour.mk.injEq]
  omega

theorem ofCode_of_nonneg (nonneg : 0 ≤ code) (small : code < 16777216) :
  ∃ c, ofCode code = .ok c ∧ DividedFrom code c
  := by
  rw [ofCode, if_neg (by omega)]
  refine ⟨_, rfl, ?_, ?_, ?_, ?_⟩
  · show code.toNat / 65536 < 256
    omega
  · show code.toNat / 256 % 256 < 256
    omega
  · show code.toNat % 256 < 256
    omega
  · show code = 65536 * (code.toNat / 65536 : Nat) + 256 * (code.toNat / 256 % 256 : Nat) +
      (code.toNat % 256 : Nat)
    omega

theorem ofCode_of_neg (negative : code < 0) :
  ofCode code = .error .negativeColour
  := if_pos negative

theorem Reads.lt (h : Reads part code) :
  code < 16777216
  := by
  have bound := Numeral.hexadecimal?_lt h.2
  rw [h.1] at bound
  exact bound

theorem Reads.unique {code' : Int} (h : Reads part code) (h' : Reads part code') :
  code = code'
  := Option.some.inj (h.2.symm.trans h'.2)

/-- A part that is no colour is refused with a report. -/
theorem codeOf_cases (part : List Char) :
  (∃ code, Reads part code ∧ Palette.codeOf part = .ok code) ∨
    (¬∃ code, Reads part code) ∧ ∃ e ∈ [.colourLength, .badColour], Palette.codeOf part = .error e
  := by
  rw [Palette.codeOf]
  by_cases six : part.length = 6
  · rw [if_pos six]
    cases read : Numeral.hexadecimal? (String.ofList part) with
    | some code => exact .inl ⟨code, ⟨six, read⟩, rfl⟩
    | none =>
        refine .inr ⟨?_, .badColour, by decide, rfl⟩
        rintro ⟨code, -, read'⟩
        rw [read] at read'
        cases read'
  · rw [if_neg six]
    refine .inr ⟨?_, .colourLength, by decide, rfl⟩
    rintro ⟨code, six', -⟩
    exact six six'

theorem Spells.hexDigits (h : Spells part c) :
  ∀ d ∈ part, ∃ n, Numeral.hexDigit? d = some n
  := by
  obtain ⟨r, r', g, g', b, b', digits, -⟩ := h
  intro d member
  have value : Numeral.hexDigit? d ∈ [r, r', g, g', b, b'].map some :=
    digits ▸ List.mem_map_of_mem member
  obtain ⟨n, -, here⟩ := List.mem_map.mp value
  exact ⟨n, here.symm⟩

theorem Spells.plain (h : Spells part c) :
  ∀ d ∈ part, Numeral.isExtra d = false
  := by
  intro d member
  obtain ⟨n, digit⟩ := h.hexDigits d member
  exact Numeral.plain_of_hexDigit? digit

theorem Spells.length (h : Spells part c) :
  part.length = 6
  := by
  obtain ⟨r, r', g, g', b, b', digits, -⟩ := h
  rw [← List.length_map Numeral.hexDigit?, digits]
  rfl

/-- Six hexadecimal digits are read as the number of the colour that they spell. -/
theorem Spells.exists_reads (h : Spells part c) :
  ∃ code, Reads part code ∧ 0 ≤ code ∧ DividedFrom code c
  := by
  have some : part ≠ [] := List.ne_nil_of_length_eq_add_one h.length
  obtain ⟨r, r', g, g', b, b', digits, components⟩ := id h
  have small : ∀ n ∈ [r, r', g, g', b, b'], n < 16 := by
    intro n member
    have value : Option.some n ∈ part.map Numeral.hexDigit? := digits ▸ List.mem_map_of_mem member
    obtain ⟨d, here, digit⟩ := List.mem_map.mp value
    exact Numeral.digit?_lt ((Numeral.digit?_of_plain (h.plain d here)).trans digit)
  simp only [List.forall_mem_cons] at small
  have value : Numeral.ofDigits 16 [r, r', g, g', b, b'] =
      65536 * (16 * r + r') + 256 * (16 * g + g') + (16 * b + b') := by
    simp only [Numeral.ofDigits, List.foldl_cons, List.foldl_nil]
    omega
  refine ⟨Numeral.ofDigits 16 [r, r', g, g', b, b'], ⟨h.length, ?_⟩, Int.natCast_nonneg _, ?_⟩
  · rw [Numeral.hexadecimal?_eq_some_iff h.plain some]
    exact ⟨_, digits, rfl⟩
  · rw [value, components]
    constructor <;> dsimp only <;> omega

/-- Without extra characters, six characters that are read spell a colour. -/
theorem Reads.exists_spells (h : Reads part code) (plain : ∀ d ∈ part, Numeral.isExtra d = false) :
  ∃ c, Spells part c
  := by
  obtain ⟨six, read⟩ := h
  have some : part ≠ [] := List.ne_nil_of_length_eq_add_one six
  obtain ⟨ds, digits, -⟩ := (Numeral.hexadecimal?_eq_some_iff plain some).mp read
  have count : ds.length = 6 := by
    rw [← six, ← List.length_map Numeral.hexDigit?, digits, List.length_map]
  match ds, count with
  | [r, r', g, g', b, b'], _ => exact ⟨_, r, r', g, g', b, b', digits, rfl⟩

end Colour

/-! ### Palettes -/

namespace Palette

/-- A palette is spelled as the colour of the background, after which that of the foreground may
follow. A foreground that is not spelled is light grey. -/
inductive Spells : List Char → Palette → Prop
  | background {part : List Char} {b : Colour} (first : b.Spells part) :
      Spells part ⟨b, ⟨0xdd, 0xdd, 0xdd⟩⟩
  | both {part part' : List Char} {b f : Colour} (first : b.Spells part) (second : f.Spells part') :
      Spells (part ++ ',' :: part') ⟨b, f⟩

/-- The numbers that are read from the parts of a text, one or two. -/
def Reads (cs : List Char) (codes : List Int) : Prop :=
  ∃ parts, Text.Divides ',' cs parts ∧ List.Forall₂ Colour.Reads parts codes ∧
    codes.length ≤ 2

/-- The palette of numbers, each of which has a default. -/
def ofCodes (codes : List Int) : Except HostError Palette := do
  let background ← Colour.ofCode (codes.getD 0 defaultBackground)
  let foreground ← Colour.ofCode (codes.getD 1 defaultForeground)
  return ⟨background, foreground⟩

variable {cs : List Char} {codes : List Int}

theorem Reads.unique {codes' : List Int} (h : Reads cs codes) (h' : Reads cs codes') :
  codes = codes'
  := by
  obtain ⟨parts, divided, read, -⟩ := h
  obtain ⟨parts', divided', read', -⟩ := h'
  obtain rfl : parts = parts' := divided.split_eq.symm.trans divided'.split_eq
  clear divided divided'
  induction read generalizing codes' with
  | nil =>
      cases read'
      rfl
  | cons here rest ih =>
      cases read' with
      | cons here' rest' => rw [here.unique here', ih rest']

/-- Parts are read one after the other, up to the first one that is no colour. -/
theorem mapM_codeOf_cases (parts : List (List Char)) :
  (∃ codes, List.Forall₂ Colour.Reads parts codes ∧ parts.mapM codeOf = .ok codes) ∨
    (¬∃ codes, List.Forall₂ Colour.Reads parts codes) ∧
      ∃ e ∈ [.colourLength, .badColour], parts.mapM codeOf = .error e
  := by
  induction parts with
  | nil => exact .inl ⟨[], .nil, rfl⟩
  | cons part parts ih =>
      rw [List.mapM_cons]
      rcases Colour.codeOf_cases part with ⟨code, read, made⟩ | ⟨unread, e, member, failed⟩
      · rcases ih with ⟨codes, reads, more⟩ | ⟨unread, e, member, failed⟩
        · refine .inl ⟨code :: codes, .cons read reads, ?_⟩
          rw [made, more]
          rfl
        · refine .inr ⟨?_, e, member, ?_⟩
          · rintro ⟨codes, reads⟩
            cases reads with
            | cons here rest => exact unread ⟨_, rest⟩
          · rw [made, failed]
            rfl
      · refine .inr ⟨?_, e, member, ?_⟩
        · rintro ⟨codes, reads⟩
          cases reads with
          | cons here rest => exact unread ⟨_, here⟩
        · rw [failed]
          rfl

/-- A text is refused with a report if it has more than two parts, or one that is no colour. -/
theorem ofText_cases (s : String) :
  (∃ codes, Reads s.toList codes ∧ ofText (some s) = ofCodes codes) ∨
    (¬∃ codes, Reads s.toList codes) ∧
      ∃ e ∈ [.colourCount, .colourLength, .badColour], ofText (some s) = .error e
  := by
  have divided := Text.divides_split ',' s.toList
  have same {parts : List (List Char)} (h : Text.Divides ',' s.toList parts) := h.split_eq
  rw [ofText]
  by_cases many : 2 < (Text.split ',' s.toList).length
  · right
    refine ⟨?_, .colourCount, by decide, if_pos many⟩
    rintro ⟨codes, parts, divided', reads, few⟩
    rw [← reads.length_eq, ← same divided'] at few
    omega
  · rw [if_neg many]
    rcases mapM_codeOf_cases (Text.split ',' s.toList) with
      ⟨codes, reads, made⟩ | ⟨unread, e, member, failed⟩
    · have few : codes.length ≤ 2 := by
        rw [← reads.length_eq]
        omega
      refine .inl ⟨codes, ⟨_, divided, reads, few⟩, ?_⟩
      rw [made]
      rfl
    · refine .inr ⟨?_, e, List.mem_cons_of_mem _ member, ?_⟩
      · rintro ⟨codes, parts, divided', reads, -⟩
        rw [← same divided'] at reads
        exact unread ⟨codes, reads⟩
      · rw [failed]
        rfl

theorem dividedFrom_defaultForeground :
  Colour.DividedFrom defaultForeground ⟨0xdd, 0xdd, 0xdd⟩
  := ⟨by decide, by decide, by decide, by decide⟩

theorem notMem_of_spells {part : List Char} {c : Colour} (h : c.Spells part) :
  ',' ∉ part
  := by
  intro comma
  obtain ⟨n, digit⟩ := h.hexDigits ',' comma
  cases digit

/-- The numbers of a palette that is spelled are those of its colours. -/
theorem Spells.exists_reads {p : Palette} (h : Spells cs p) :
  ∃ codes, Reads cs codes ∧ (∀ code ∈ codes, 0 ≤ code) ∧
    Colour.DividedFrom (codes.getD 0 defaultBackground) p.background ∧
    Colour.DividedFrom (codes.getD 1 defaultForeground) p.foreground
  := by
  cases h with
  | background first =>
      obtain ⟨code, read, nonneg, divided⟩ := first.exists_reads
      have clean : ∀ part ∈ [cs], ',' ∉ part :=
        List.forall_mem_singleton.mpr (notMem_of_spells first)
      have whole : Text.Divides ',' cs [cs] :=
        ⟨List.cons_ne_nil _ _, clean, List.intercalate_singleton⟩
      refine ⟨[code], ⟨[cs], whole, .cons read .nil, Nat.le_succ 1⟩, ?_, divided, ?_⟩
      · exact List.forall_mem_singleton.mpr nonneg
      · exact dividedFrom_defaultForeground
  | @both part part' b f first second =>
      obtain ⟨code, read, nonneg, divided⟩ := first.exists_reads
      obtain ⟨code', read', nonneg', divided'⟩ := second.exists_reads
      have clean : ∀ part'' ∈ [part, part'], ',' ∉ part'' :=
        List.forall_mem_cons.mpr
          ⟨notMem_of_spells first, List.forall_mem_singleton.mpr (notMem_of_spells second)⟩
      have whole : Text.Divides ',' (part ++ ',' :: part') [part, part'] := by
        refine ⟨List.cons_ne_nil _ _, clean, ?_⟩
        rw [List.intercalate_cons_cons, List.intercalate_singleton, List.append_assoc]
        rfl
      have reads := List.Forall₂.cons read (.cons read' .nil)
      refine ⟨[code, code'], ⟨_, whole, reads, Nat.le_refl 2⟩, ?_, divided, divided'⟩
      exact List.forall_mem_cons.mpr ⟨nonneg, List.forall_mem_singleton.mpr nonneg'⟩

/-- A palette is spelled without extra characters. -/
theorem Spells.plain {p : Palette} (h : Spells cs p) :
  ∀ c ∈ cs, Numeral.isExtra c = false
  := by
  cases h with
  | background first => exact first.plain
  | both first second =>
      rw [List.forall_mem_append, List.forall_mem_cons]
      exact ⟨first.plain, by decide, second.plain⟩

/-- Without extra characters, a palette that is read is spelled. -/
theorem Reads.exists_spells (h : Reads cs codes) (plain : ∀ c ∈ cs, Numeral.isExtra c = false) :
  ∃ p, Spells cs p
  := by
  obtain ⟨parts, ⟨some, -, rfl⟩, reads, few⟩ := h
  cases reads with
  | nil => exact absurd rfl some
  | cons first rest =>
      cases rest with
      | nil =>
          rw [List.intercalate_singleton] at plain ⊢
          obtain ⟨b, spelled⟩ := first.exists_spells plain
          exact ⟨_, .background spelled⟩
      | cons second rest =>
          cases rest with
          | nil =>
              rw [List.intercalate_cons_cons, List.intercalate_singleton, List.append_assoc,
                List.singleton_append] at plain ⊢
              obtain ⟨plain, plain'⟩ := List.forall_mem_append.mp plain
              obtain ⟨b, spelled⟩ := first.exists_spells plain
              obtain ⟨f, spelled'⟩ := second.exists_spells (List.forall_mem_cons.mp plain').2
              exact ⟨_, .both spelled spelled'⟩
          | cons third rest =>
              simp only [List.length_cons] at few
              omega

theorem Reads.lt (h : Reads cs codes) :
  ∀ code ∈ codes, code < 16777216
  := by
  obtain ⟨parts, -, reads, -⟩ := h
  induction reads with
  | nil => exact fun code here => nomatch here
  | cons read _ ih => exact List.forall_mem_cons.mpr ⟨read.lt, ih⟩

/-- Numbers that are not negative are divided into the colours of a palette. -/
theorem Reads.ofCodes_eq_ok (h : Reads cs codes) (nonneg : ∀ code ∈ codes, 0 ≤ code) :
  ∃ p, ofCodes codes = .ok p ∧
    Colour.DividedFrom (codes.getD 0 defaultBackground) p.background ∧
    Colour.DividedFrom (codes.getD 1 defaultForeground) p.foreground
  := by
  have divided : ∀ i default, 0 ≤ default → default < 16777216 →
      ∃ c, Colour.ofCode (codes.getD i default) = .ok c ∧
        Colour.DividedFrom (codes.getD i default) c := by
    intro i default nonneg' small'
    rw [List.getD_eq_getElem?_getD]
    cases there : codes[i]? with
    | none => exact Colour.ofCode_of_nonneg nonneg' small'
    | some code =>
        have here := List.mem_of_getElem? there
        exact Colour.ofCode_of_nonneg (nonneg code here) (h.lt code here)
  obtain ⟨b, made, background⟩ := divided 0 defaultBackground (by decide) (by decide)
  obtain ⟨f, made', foreground⟩ := divided 1 defaultForeground (by decide) (by decide)
  refine ⟨⟨b, f⟩, ?_, background, foreground⟩
  rw [ofCodes, made, made']
  rfl

/-- No palette has a colour of a negative number. -/
theorem Reads.ofCodes_eq_error (h : Reads cs codes) (negative : ∃ code ∈ codes, code < 0) :
  ofCodes codes = .error .negativeColour
  := by
  obtain ⟨parts, -, -, few⟩ := h
  obtain ⟨code, member, negative⟩ := negative
  obtain ⟨i, inside, rfl⟩ := List.mem_iff_getElem.mp member
  have failed (default : Int) : Colour.ofCode (codes.getD i default) = .error .negativeColour := by
    rw [List.getD_eq_getElem codes default inside]
    exact Colour.ofCode_of_neg negative
  rw [ofCodes]
  obtain rfl | rfl : i = 0 ∨ i = 1 := by omega
  · rw [failed]
    rfl
  · rw [failed, Colour.ofCode]
    split
    · rfl
    · rfl

theorem ofText_of_reads {s : String} (h : Reads s.toList codes) :
  ofText (some s) = ofCodes codes
  := by
  rcases ofText_cases s with ⟨codes', h', made⟩ | ⟨unread, -⟩
  · rw [made, h.unique h']
  · exact absurd ⟨codes, h⟩ unread

/-- A text gives no palette for its colours only. -/
theorem ofText_error {text : Option String} {e : HostError} (bad : ofText text = .error e) :
  e ∈ [.colourCount, .colourLength, .badColour, .negativeColour]
  := by
  cases text with
  | none => cases bad
  | some s =>
      rcases ofText_cases s with ⟨codes, read, made⟩ | ⟨-, e', member, failed⟩
      · rw [made] at bad
        by_cases negative : ∃ code ∈ codes, code < 0
        · cases (read.ofCodes_eq_error negative).symm.trans bad
          decide
        · obtain ⟨p, made, -⟩ := read.ofCodes_eq_ok (by simpa using negative)
          cases made.symm.trans bad
      · cases failed.symm.trans bad
        exact List.mem_append_left [.negativeColour] member

/-- A text gives the palette that it spells. -/
theorem ofText_of_spells {s : String} {p : Palette} (h : Spells s.toList p) :
  ofText (some s) = .ok p
  := by
  obtain ⟨codes, read, nonneg, background, foreground⟩ := h.exists_reads
  obtain ⟨p', made, background', foreground'⟩ := read.ofCodes_eq_ok nonneg
  obtain rfl : p = p' := by
    rw [Palette.mk.injEq]
    exact ⟨background.unique background', foreground.unique foreground'⟩
  exact (ofText_of_reads read).trans made

end Palette

namespace Window

open Palette

theorem create_of_ofText {system : WindowSystem} {scale : Option Int} {palette : Option String}
    {p : Palette} (made : ofText palette = .ok p) :
  create system scale palette = ofPalette system (scale.getD defaultScale) p
  := by
  rw [create, made]
  rfl

theorem create_of_error {system : WindowSystem} {scale : Option Int} {palette : Option String}
    {e : HostError} (failed : ofText palette = .error e) :
  create system scale palette = .error e
  := by
  rw [create, failed]
  rfl

/-- A text that spells a palette gives a window its colours. Otherwise a window can get the colours
of a palette that is read, unless one of its numbers is negative, for which no error is reported;
but a palette that is read is spelled, unless the text has extra characters. An error is reported
for all other texts. -/
theorem create_reads (system : WindowSystem) (scale : Option Int) (s : String) :
  (∀ p, Spells s.toList p →
    create system scale (some s) = ofPalette system (scale.getD defaultScale) p) ∧
  (∀ codes, Reads s.toList codes →
    ((∀ code ∈ codes, 0 ≤ code) → ∃ p,
      Colour.DividedFrom (codes.getD 0 0x222222) p.background ∧
      Colour.DividedFrom (codes.getD 1 0xdddddd) p.foreground ∧
      create system scale (some s) = ofPalette system (scale.getD defaultScale) p) ∧
    ((∃ code ∈ codes, code < 0) → create system scale (some s) = .error .negativeColour) ∧
    ((∃ p, Spells s.toList p) ↔ ∀ c ∈ s.toList, Numeral.isExtra c = false)) ∧
  ((¬∃ codes, Reads s.toList codes) →
    ∃ e ∈ [.colourCount, .colourLength, .badColour], create system scale (some s) = .error e)
  := by
  refine ⟨fun p spelled => create_of_ofText (ofText_of_spells spelled), ?_, ?_⟩
  · intro codes read
    have same := ofText_of_reads read
    refine ⟨?_, ?_, ⟨fun ⟨p, spelled⟩ => spelled.plain, read.exists_spells⟩⟩
    · intro nonneg
      obtain ⟨p, made, background, foreground⟩ := read.ofCodes_eq_ok nonneg
      exact ⟨p, background, foreground, create_of_ofText (same.trans made)⟩
    · intro negative
      exact create_of_error (same.trans (read.ofCodes_eq_error negative))
  · intro unread
    rcases ofText_cases s with ⟨codes, read, -⟩ | ⟨-, e, member, failed⟩
    · exact absurd ⟨codes, read⟩ unread
    · exact ⟨e, member, create_of_error failed⟩

/-- A window gets the two colours of a palette that is spelled in letters of both cases. -/
theorem create_reads_mixedCase :
  create .willing none (some "12aBcD,0Fe9d8") =
    .ok (ofScale .willing 640 ⟨⟨0x12, 0xab, 0xcd⟩, ⟨0x0f, 0xe9, 0xd8⟩⟩)
  := by
  have spelled : Spells "12aBcD,0Fe9d8".toList ⟨⟨0x12, 0xab, 0xcd⟩, ⟨0x0f, 0xe9, 0xd8⟩⟩ :=
    @Spells.both ['1', '2', 'a', 'B', 'c', 'D'] ['0', 'F', 'e', '9', 'd', '8'] _ _
      ⟨1, 2, 10, 11, 12, 13, by decide, rfl⟩ ⟨0, 15, 14, 9, 13, 8, by decide, rfl⟩
  rw [(create_reads .willing none "12aBcD,0Fe9d8").1 _ spelled]
  rfl

/-- A colour with a mark is accepted and one with a sign is refused without a report, while neither
is spelled in hexadecimal digits. -/
theorem create_unspelled :
  (¬∃ p, Spells "0x1f2e".toList p) ∧
    create .willing none (some "0x1f2e") =
      .ok (ofScale .willing 640 ⟨⟨0, 0x1f, 0x2e⟩, ⟨0xdd, 0xdd, 0xdd⟩⟩) ∧
    (¬∃ p, Spells "-12345".toList p) ∧
    create .willing none (some "-12345") = .error .negativeColour ∧
    HostError.negativeColour.isReported = false
  := by
  refine ⟨?_, ?_, ?_, ?_, rfl⟩
  · rintro ⟨p, spelled⟩
    have mark := spelled.plain 'x' (by decide)
    exact absurd mark (by decide)
  · apply create_of_ofText
    decide +kernel
  · rintro ⟨p, spelled⟩
    have sign := spelled.plain '-' (by decide)
    exact absurd sign (by decide)
  · apply create_of_error
    decide +kernel

end Window

end Chip8
