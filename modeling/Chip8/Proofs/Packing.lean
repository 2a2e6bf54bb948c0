import Chip8.Proofs.Memory
import Chip8.Proofs.Rates
import Mathlib.Algebra.BigOperators.Ring.Finset

/-!
# Packed rows and refused calls

Several locations that are read together make the sum of their bytes, each one multiplied by the
power of two of its place (`Memory.number`), because every memory that calls lead to holds bytes of
the width of an item (`Memory.Fits`). They are read exactly if the row lies within the bounds and
the digits of the sum have addresses. A row of values is stored exactly if it lies within the bounds
and each value fits an item and a byte (`Memory.writeBytes_eq_ok_iff`). A call makes all its checks
before it stores (`Memory.serve_eq`), so one that is refused, for whichever reason
(`MemoryCall.Refused`), leaves the memory as it was.
-/

namespace Chip8

/-! ### Numbers that have addresses -/

theorem le_log2 {k n : Nat} (h : twoPow k ≤ n) :
  k ≤ n.log2
  := (Nat.le_log2 (Nat.ne_of_gt (Nat.lt_of_lt_of_le (twoPow_pos k) h))).mpr h

theorem log2_le_log2 {j k : Nat} (h : j ≤ k) :
  j.log2 ≤ k.log2
  := by
  by_cases zero : j = 0
  · rw [zero]
    apply Nat.zero_le
  · apply le_log2
    exact Nat.le_trans (Nat.log2_self_le zero) h

namespace Excess

/-- The digits of a number have addresses. -/
def Addressable (n : Nat) : Prop := n.log2 < bitLimit

/-- A number below one that has addresses has them as well. -/
theorem Addressable.mono {j k : Nat} (short : Addressable k) (h : j ≤ k) :
  Addressable j
  := Nat.lt_of_le_of_lt (log2_le_log2 h) short

theorem addressable_byte {n : Nat} (byte : n ≤ 255) :
  Addressable n
  := by
  have top : Addressable 255 := by
    rw [Addressable]
    decide
  exact top.mono byte

end Excess

/-! ### Checks -/

/-- The fault of a value that is too wide for an item. It cannot tell a width that has too many
digits. -/
def Bank.widthFault (bank : Bank) (value : Int) : Fault :=
  if Numeral.isWritable bank.itemBits then .tooWide bank.name bank.itemBits value
  else .unwritableWidth

/-- A row of locations that may be empty or of negative length, the first and the last address of
which lie within the bounds. -/
structure Bank.Spans (bank : Bank) (location length : Int) : Prop where
  first : 0 ≤ location ∧ location < bank.size
  last : 0 ≤ location + length - 1 ∧ location + length - 1 < bank.size

/-- The number of bits of an item. -/
def Bank.width (bank : Bank) : Nat := bank.itemBits.toNat

theorem Bank.natCast_width {bank : Bank} (wide : 0 ≤ bank.itemBits) :
  (bank.width : Int) = bank.itemBits
  := Int.toNat_of_nonneg wide

/-- A value that fits an item and a byte. -/
structure Bank.Takes (bank : Bank) (value : Int) : Prop where
  nonneg : 0 ≤ value
  narrow : value < (twoPow bank.width : Int)
  byte : value ≤ 255

/-- The faults for which a bank refuses to store values in a row of locations. -/
inductive Bank.Refuses (bank : Bank) (values : List Int) : Fault → Prop where
  /-- The row begins or ends at an address that has no location. -/
  | address {a : Int} (outside : ¬(0 ≤ a ∧ a < bank.size)) :
      Refuses bank values (.badAddress bank.name a)
  /-- A value does not fit an item. -/
  | width {v : Int} (member : v ∈ values) (outside : ¬(0 ≤ v ∧ v < (twoPow bank.width : Int))) :
      Refuses bank values (bank.widthFault v)
  /-- A value fits an item, but not a byte. -/
  | byte {v : Int} (member : v ∈ values) (narrow : 0 ≤ v ∧ v < (twoPow bank.width : Int))
      (large : 255 < v.toNat) :
      Refuses bank values (.notAByte v.toNat)

namespace Memory

variable {bank : Bank}

/-- An item takes the values of its width. -/
theorem fit_eq (wide : 0 ≤ bank.itemBits) (value : Int) :
  fit bank.name bank.itemBits value =
    if 0 ≤ value ∧ value < (twoPow bank.width : Int) then .ok value.toNat
    else .error (bank.widthFault value)
  := by
  rw [← Bank.natCast_width wide, fit_eq_ite, Bank.widthFault, Bank.natCast_width wide]
  split
  · rfl
  · split <;> rfl

/-- A row of checks succeeds if all of them do, and otherwise ends with the fault of one that does
not. -/
theorem mapM_cases {α β : Type} {f : α → Except Fault β} {good : α → Prop} [DecidablePred good]
    {g : α → β} {fault : α → Fault}
    (checks : ∀ x, f x = if good x then .ok (g x) else .error (fault x)) (xs : List α) :
  ((∀ x ∈ xs, good x) ∧ xs.mapM f = .ok (xs.map g)) ∨
    ∃ x ∈ xs, ¬good x ∧ xs.mapM f = .error (fault x)
  := by
  by_cases all : ∀ x ∈ xs, good x
  · left
    use all
    apply mapM_eq_ok
    intro x member
    rw [checks, if_pos (all x member)]
  · right
    induction xs with
    | nil =>
        refine absurd ?_ all
        intro x member
        cases member
    | cons x xs ih =>
        rw [List.mapM_cons, checks]
        by_cases first : good x
        · have rest : ¬∀ x ∈ xs, good x := fun rest => all (List.forall_mem_cons.mpr ⟨first, rest⟩)
          obtain ⟨y, member, bad, failed⟩ := ih rest
          use y, List.mem_cons_of_mem x member, bad
          rw [if_pos first, failed]
          rfl
        · use x, List.mem_cons_self, first
          rw [if_neg first]
          rfl

/-- An item is stored if it fits a byte. -/
theorem checkByte_eq (item : Nat) :
  checkByte item = if item ≤ 255 then .ok item else .error (.notAByte item)
  := by
  rw [checkByte]
  by_cases byte : item ≤ 255
  · rw [if_neg (by omega), if_pos byte]
  · rw [if_pos (by omega), if_neg byte]

/-! ### Reading -/

section

variable (m : Memory bank)

theorem readBytes_of_spans {location length : Int} (h : bank.Spans location length) :
  m.readBytes location length = .ok (m.extract location.toNat length.toNat)
  := by
  rw [readBytes, checkAddress_of_inside h.first, checkAddress_of_inside h.last]
  rfl

theorem readBytes_of_not_spans {location length : Int} (h : ¬bank.Spans location length) :
  ∃ a : Int, ¬(0 ≤ a ∧ a < bank.size) ∧
    m.readBytes location length = .error (.badAddress bank.name a)
  := by
  by_cases first : 0 ≤ location ∧ location < bank.size
  · have last : ¬(0 ≤ location + length - 1 ∧ location + length - 1 < bank.size) :=
      fun last => h ⟨first, last⟩
    use location + length - 1, last
    rw [readBytes, checkAddress_of_inside first, checkAddress_of_outside last]
    rfl
  · use location, first
    rw [readBytes, checkAddress_of_outside first]
    rfl

/-- The number that `n` locations from `a` on make, the first one most significant. -/
def number (a n : Nat) : Nat :=
  ∑ k ∈ Finset.range n, m.get (a + k) * twoPow (bank.width * (n - 1 - k))

theorem number_succ (a n : Nat) :
  m.number a (n + 1) = m.number a n * twoPow bank.width + m.get (a + n)
  := by
  have shifted : ∀ k ∈ Finset.range n,
      m.get (a + k) * twoPow (bank.width * (n + 1 - 1 - k)) =
        m.get (a + k) * twoPow (bank.width * (n - 1 - k)) * twoPow bank.width := by
    intro k inside
    have place : n + 1 - 1 - k = n - 1 - k + 1 := by
      have := Finset.mem_range.mp inside
      omega
    rw [place, Nat.mul_succ, twoPow_add, Nat.mul_assoc]
  rw [number, Finset.sum_range_succ, Finset.sum_congr rfl shifted, ← Finset.sum_mul, ← number]
  simp only [Nat.add_sub_cancel, Nat.sub_self, Nat.mul_zero, twoPow_zero, Nat.mul_one]

theorem number_one (a : Nat) :
  m.number a 1 = m.get a
  := by
  rw [number_succ, number, Finset.sum_range_zero, Nat.zero_mul, Nat.zero_add, Nat.add_zero]

/-- Two rows in succession make the number of the first one before that of the second one. -/
theorem number_add (a j k : Nat) :
  m.number a (j + k) = m.number a j * twoPow (bank.width * k) + m.number (a + j) k
  := by
  induction k with
  | zero => simp [number]
  | succ k ih =>
      calc m.number a (j + k + 1)
        _ = m.number a (j + k) * twoPow bank.width + m.get (a + (j + k)) := m.number_succ a (j + k)
        _ = m.number a j * twoPow (bank.width * k) * twoPow bank.width +
              (m.number (a + j) k * twoPow bank.width + m.get (a + j + k)) := by
          rw [ih, Nat.add_mul, Nat.add_assoc, Nat.add_assoc]
        _ = m.number a j * twoPow (bank.width * (k + 1)) + m.number (a + j) (k + 1) := by
          rw [m.number_succ, Nat.mul_succ, twoPow_add, Nat.mul_assoc]

/-- The bytes of a memory fit the width of an item. -/
structure Fits (m : Memory bank) : Prop where
  narrow : ∀ k, m.get k < twoPow bank.width
  byte : ∀ k, m.get k ≤ 255

end

theorem le_shiftLeft_or (w packed item : Nat) :
  packed ≤ packed <<< w ||| item
  := by
  calc packed
    _ ≤ packed <<< w := by
      rw [Nat.shiftLeft_eq]
      apply Nat.le_mul_of_pos_right packed (Nat.two_pow_pos w)
    _ ≤ packed <<< w ||| item := Nat.left_le_or

/-- A number to which items are joined does not become smaller. -/
theorem le_foldl_join (w packed : Nat) (items : List Nat) :
  packed ≤ items.foldl (fun packed item => packed <<< w ||| item) packed
  := by
  induction items generalizing packed with
  | nil => apply Nat.le_refl
  | cons item items ih => exact Nat.le_trans (le_shiftLeft_or w packed item) (ih _)

/-- A number that an item is put after has as many bits more as the item is wide. -/
theorem log2_shiftLeft_or {w packed item : Nat} (nonzero : packed ≠ 0)
    (narrow : item < twoPow w) :
  (packed <<< w ||| item).log2 = packed.log2 + w
  := by
  have nonzero' : packed <<< w ||| item ≠ 0 := by
    have := le_shiftLeft_or w packed item
    omega
  apply Nat.le_antisymm
  · apply Nat.le_of_lt_succ
    rw [Nat.log2_lt nonzero', Nat.succ_eq_add_one, Nat.add_right_comm]
    have below : packed < twoPow (packed.log2 + 1) := Nat.lt_log2_self
    exact shiftLeft_or_lt below narrow
  · apply le_log2
    calc twoPow (packed.log2 + w)
      _ = twoPow packed.log2 * twoPow w := twoPow_add _ _
      _ ≤ packed * twoPow w := Nat.mul_le_mul_right _ (Nat.log2_self_le nonzero)
      _ ≤ packed <<< w ||| item := by
        rw [shiftLeft_or_eq packed narrow]
        apply Nat.le_add_right

/-- An item is joined to a number exactly if the number that they make has addresses. -/
theorem join_cases {w packed item : Nat} (narrow : item < twoPow w) (byte : item ≤ 255) :
  (Excess.Addressable (packed <<< w ||| item) ∧
      join w packed item = .ok (packed <<< w ||| item)) ∨
    (¬Excess.Addressable (packed <<< w ||| item) ∧
      join w packed item = .error (.excessive .addresses))
  := by
  rw [join, if_neg (by omega), Int.toNat_natCast]
  by_cases empty : packed = 0
  · left
    rw [empty, Nat.zero_shiftLeft, Nat.zero_or, if_pos rfl]
    exact ⟨Excess.addressable_byte byte, rfl⟩
  · rw [if_neg empty, Excess.Addressable, log2_shiftLeft_or empty narrow]
    by_cases long : Excess.bitLimit < packed.log2 + 1 + w
    · right
      rw [if_pos long]
      exact ⟨by omega, rfl⟩
    · left
      rw [if_neg long]
      exact ⟨by omega, rfl⟩

/-- A row is joined to a number exactly if the number that they make has addresses. -/
theorem foldlM_join_cases {w : Nat} {items : List Nat} {packed : Nat}
    (narrow : ∀ item ∈ items, item < twoPow w) (byte : ∀ item ∈ items, item ≤ 255)
    (small : Excess.Addressable packed) :
  let joined := items.foldl (fun packed item => packed <<< w ||| item) packed
  (Excess.Addressable joined ∧ items.foldlM (join w) packed = .ok joined) ∨
    (¬Excess.Addressable joined ∧
      items.foldlM (join w) packed = .error (.excessive .addresses))
  := by
  intro joined
  induction items generalizing packed with
  | nil => exact .inl ⟨small, rfl⟩
  | cons item items ih =>
      obtain ⟨narrow', narrow⟩ := List.forall_mem_cons.mp narrow
      obtain ⟨byte', byte⟩ := List.forall_mem_cons.mp byte
      rw [List.foldlM_cons]
      rcases join_cases narrow' byte' with ⟨small', first⟩ | ⟨large, first⟩
      · rw [first]
        exact ih narrow byte small'
      · right
        use fun small => large (small.mono (le_foldl_join w _ items))
        rw [first]
        rfl

section

variable {m : Memory bank} (fits : m.Fits)

include fits

/-- A row of bytes that fit is packed into its number. -/
theorem pack_extract (a n : Nat) :
  pack bank.width (m.extract a n) = m.number a n
  := by
  induction n with
  | zero => rfl
  | succ n ih =>
      rw [number_succ, ← ih, extract, List.range_succ, List.map_append, pack, List.foldl_append]
      exact shiftLeft_or_eq _ (fits.narrow _)

/-- A row within the bounds is read as its number exactly if this has addresses. -/
theorem read_of_spans (wide : 0 ≤ bank.itemBits) {location length : Int}
    (h : bank.Spans location length) :
  let n := m.number location.toNat length.toNat
  (Excess.Addressable n ∧ m.read location length = .ok n) ∨
    (¬Excess.Addressable n ∧ m.read location length = .error (.excessive .addresses))
  := by
  have held : ∀ item ∈ m.extract location.toNat length.toNat, ∃ k, m.get k = item := by
    intro item member
    obtain ⟨k, -, same⟩ := List.mem_map.mp member
    exact ⟨_, same⟩
  have narrow : ∀ item ∈ m.extract location.toNat length.toNat, item < twoPow bank.width := by
    intro item member
    obtain ⟨k, rfl⟩ := held item member
    apply fits.narrow
  have byte : ∀ item ∈ m.extract location.toNat length.toNat, item ≤ 255 := by
    intro item member
    obtain ⟨k, rfl⟩ := held item member
    apply fits.byte
  have joined := foldlM_join_cases narrow byte (Excess.addressable_byte (Nat.zero_le 255))
  rw [← pack, pack_extract fits, Bank.natCast_width wide] at joined
  rw [read, m.readBytes_of_spans h]
  exact joined

theorem read_eq_ok_iff (wide : 0 ≤ bank.itemBits) {location length : Int} {n : Nat} :
  m.read location length = .ok n ↔
    bank.Spans location length ∧ n = m.number location.toNat length.toNat ∧ Excess.Addressable n
  := by
  by_cases h : bank.Spans location length
  · rcases read_of_spans fits wide h with ⟨small, read⟩ | ⟨large, read⟩
    · rw [read]
      constructor
      · rintro ⟨⟩
        exact ⟨h, rfl, small⟩
      · rintro ⟨-, rfl, -⟩
        rfl
    · rw [read]
      constructor
      · rintro ⟨⟩
      · rintro ⟨-, rfl, small⟩
        exact absurd small large
  · obtain ⟨a, -, refused⟩ := m.readBytes_of_not_spans h
    rw [read, refused]
    constructor
    · rintro ⟨⟩
    · rintro ⟨inside, -⟩
      exact absurd inside h

/-- A row is read as the numbers of two parts of it. -/
theorem read_add (wide : 0 ≤ bank.itemBits) (location : Int) {j k n : Nat} (first : 0 < j)
    (second : 0 < k) :
  m.read location (j + k) = .ok n ↔
    ∃ p q, m.read location j = .ok p ∧ m.read (location + j) k = .ok q ∧
      n = p * twoPow (bank.width * k) + q ∧ Excess.Addressable n
  := by
  simp only [read_eq_ok_iff fits wide]
  constructor
  · rintro ⟨⟨⟨begins, begins'⟩, ⟨ends, ends'⟩⟩, same, small⟩
    have start : (location + j).toNat = location.toNat + j := by omega
    have length : ((j : Int) + k).toNat = j + k := by omega
    rw [length, number_add] at same
    have left : m.number location.toNat j ≤ n := by
      rw [same]
      apply Nat.le_trans (Nat.le_mul_of_pos_right _ (twoPow_pos _)) (Nat.le_add_right _ _)
    have right : m.number (location.toNat + j) k ≤ n := by
      rw [same]
      apply Nat.le_add_left
    refine ⟨_, _, ⟨⟨⟨begins, begins'⟩, ?_⟩, rfl, ?_⟩, ⟨⟨?_, ?_⟩, rfl, ?_⟩, ?_, small⟩
    · omega
    · exact small.mono left
    · omega
    · omega
    · rw [start, Int.toNat_natCast]
      exact small.mono right
    · rw [start, Int.toNat_natCast, Int.toNat_natCast]
      exact same
  · rintro ⟨p, q, ⟨⟨begins, -⟩, rfl, -⟩, ⟨⟨between, ends⟩, rfl, -⟩, same, small⟩
    have start : (location + j).toNat = location.toNat + j := by omega
    have length : ((j : Int) + k).toNat = j + k := by omega
    refine ⟨⟨begins, ?_⟩, ?_, small⟩
    · omega
    · rw [length, number_add, same, start, Int.toNat_natCast, Int.toNat_natCast]

end

/-! ### Writing -/

section

variable (m : Memory bank)

/-- One value is written as a row of one value. -/
theorem write_eq (location value : Int) :
  m.write location value = m.writeBytes location [value]
  := by
  have last : location + ([value] : List Int).length - 1 = location := by
    rw [List.length_singleton]
    omega
  rw [write, byteFor, writeBytes, if_neg (List.cons_ne_nil _ _), bytesFor, last]
  cases checkAddress bank location with
  | error e => rfl
  | ok _ =>
      rw [List.mapM_cons, List.mapM_nil]
      cases fit bank.name bank.itemBits value with
      | error e => rfl
      | ok item =>
          show (checkByte item >>= _) = ([item].mapM checkByte >>= _)
          rw [List.mapM_cons, List.mapM_nil]
          cases checkByte item with
          | error e => rfl
          | ok byte => rfl

/-- A row that is not empty is stored if it lies within the bounds and its values fit, and is
refused otherwise. -/
theorem writeBytes_cases (wide : 0 ≤ bank.itemBits) (location : Int) {values : List Int}
    (filled : values ≠ []) :
  ((bank.Spans location values.length ∧ ∀ v ∈ values, bank.Takes v) ∧
      m.writeBytes location values = .ok (m.store location.toNat (values.map Int.toNat))) ∨
    (¬(bank.Spans location values.length ∧ ∀ v ∈ values, bank.Takes v) ∧
      ∃ e, m.writeBytes location values = .error e ∧ bank.Refuses values e)
  := by
  rw [writeBytes, if_neg filled, bytesFor]
  by_cases first : 0 ≤ location ∧ location < bank.size
  swap
  · right
    use fun good => first good.1.first, .badAddress bank.name location
    rw [checkAddress_of_outside first]
    exact ⟨rfl, .address first⟩
  by_cases last : 0 ≤ location + values.length - 1 ∧ location + values.length - 1 < bank.size
  swap
  · right
    use fun good => last good.1.last, .badAddress bank.name (location + values.length - 1)
    rw [checkAddress_of_inside first, checkAddress_of_outside last]
    exact ⟨rfl, .address last⟩
  rw [checkAddress_of_inside first, checkAddress_of_inside last]
  simp only [bind, Except.bind]
  rcases mapM_cases (fit_eq wide) values with ⟨narrow, items⟩ | ⟨v, member, outside, failed⟩
  swap
  · right
    refine ⟨fun good => ?_, bank.widthFault v, ?_, .width member outside⟩
    · exact outside ⟨(good.2 v member).nonneg, (good.2 v member).narrow⟩
    · rw [failed]
  rw [items]
  rcases mapM_cases checkByte_eq (values.map Int.toNat) with
    ⟨bytes, stored⟩ | ⟨item, listed, large, failed⟩
  · left
    have takes : ∀ v ∈ values, bank.Takes v := by
      intro v member
      have byte := bytes v.toNat (List.mem_map_of_mem member)
      exact ⟨(narrow v member).1, (narrow v member).2, by omega⟩
    use ⟨⟨first, last⟩, takes⟩
    simp only [stored, List.map_id']
    rfl
  · right
    obtain ⟨v, member, rfl⟩ := List.mem_map.mp listed
    refine ⟨fun good => ?_, .notAByte v.toNat, ?_, .byte member (narrow v member) (by omega)⟩
    · have := (good.2 v member).byte
      omega
    · simp only [failed]

theorem writeBytes_eq_ok_iff (wide : 0 ≤ bank.itemBits) {location : Int} {values : List Int}
    (filled : values ≠ []) {m' : Memory bank} :
  m.writeBytes location values = .ok m' ↔
    (bank.Spans location values.length ∧ ∀ v ∈ values, bank.Takes v) ∧
      m' = m.store location.toNat (values.map Int.toNat)
  := by
  rcases m.writeBytes_cases wide location filled with ⟨good, stored⟩ | ⟨bad, e, refused, -⟩
  · rw [stored, Except.ok.injEq, eq_comm]
    exact ⟨fun same => ⟨good, same⟩, fun stored => stored.2⟩
  · rw [refused]
    constructor
    · rintro ⟨⟩
    · rintro ⟨good, -⟩
      exact absurd good bad

end

/-- A row that was stored within the bounds is there. -/
theorem extract_store (m : Memory bank) {a : Nat} {bytes : List Nat}
    (inside : a + bytes.length ≤ bank.size) :
  (m.store a bytes).extract a bytes.length = bytes
  := by
  apply List.ext_getElem (length_extract _ _ _)
  intro k short short'
  have within : a ≤ a + k ∧ a + k < a + bytes.length := by omega
  simp only [extract, List.getElem_map, List.getElem_range]
  rw [get_store bytes m a (a + k) inside, dif_pos within]
  congr 1
  omega

end Memory

/-! ### Calls -/

/-- The values that a call stores one by one. -/
def MemoryCall.values : MemoryCall → List Int
  | .write _ value => [value]
  | .writeBytes _ values => values
  | _ => []

/-- The faults for which a call is refused. -/
inductive MemoryCall.Refused (bank : Bank) (call : MemoryCall) : Fault → Prop where
  /-- The bank refuses the addresses or the values. -/
  | byBank {e : Fault} (refused : bank.Refuses call.values e) : Refused bank call e
  /-- The number that is read has more digits than there are addresses. -/
  | large {location length : Int} (reads : call = .read location length) :
      Refused bank call (.excessive .addresses)

namespace Memory

variable {bank : Bank}

/-- What a call returns and makes of a memory, if it is not refused. -/
def answer (m : Memory bank) : MemoryCall → Except Fault (MemoryReply × Memory bank)
  | .check location => do
      checkAddress bank location
      return (.done, m)
  | .read location length => do
      return (.number (← m.read location length), m)
  | .readBytes location length => do
      return (.bytes (← m.readBytes location length), m)
  | .write location value => do
      return (.done, ← m.write location value)
  | .writeBytes location values => do
      return (.done, ← m.writeBytes location values)
  | .clear => .ok (.done, zeros)

/-- A call returns what it is to return, or leaves the memory as it was. -/
theorem serve_eq (m : Memory bank) (call : MemoryCall) :
  serve call m =
    match m.answer call with
    | .ok (reply, m') => .ok reply m'
    | .error e => .error e m
  := by
  cases call with
  | check location =>
      rw [serve, answer]
      cases checkAddress bank location <;> rfl
  | read location length =>
      show EStateM.bind (MonadExcept.ofExcept (m.read location length)) _ m = _
      rw [answer]
      cases m.read location length <;> rfl
  | readBytes location length =>
      show EStateM.bind (MonadExcept.ofExcept (m.readBytes location length)) _ m = _
      rw [answer]
      cases m.readBytes location length <;> rfl
  | write location value =>
      rw [serve, answer, Memory.write]
      cases byteFor bank location value <;> rfl
  | writeBytes location values =>
      rw [serve, answer, Memory.writeBytes]
      by_cases filled : values = []
      · rw [if_neg (not_not_intro filled), if_pos filled]
        rfl
      · rw [if_pos filled, if_neg filled]
        cases bytesFor bank location values <;> rfl
  | clear => rfl

theorem serve_eq_ok_iff {m m' : Memory bank} {call : MemoryCall} {reply : MemoryReply} :
  serve call m = .ok reply m' ↔ m.answer call = .ok (reply, m')
  := by
  rw [serve_eq]
  cases m.answer call with
  | ok replied => rw [EStateM.Result.ok.injEq, Except.ok.injEq, Prod.mk.injEq]
  | error e => exact ⟨nofun, nofun⟩

/-- The memory that a call leaves, be it refused or not. -/
def after (m : Memory bank) (call : MemoryCall) : Memory bank :=
  match serve call m with
  | .ok _ m' => m'
  | .error _ m' => m'

theorem after_eq (m : Memory bank) (call : MemoryCall) :
  m.after call =
    match m.answer call with
    | .ok (_, m') => m'
    | .error _ => m
  := by
  rw [after, serve_eq]
  cases m.answer call with
  | ok replied => rfl
  | error e => rfl

/-- The memory after calls, the first one first. -/
def along (m : Memory bank) (calls : List MemoryCall) : Memory bank := calls.foldl after m

theorem fits_zeros :
  (zeros : Memory bank).Fits
  := by
  constructor
  · intro k
    rw [get_zeros]
    apply twoPow_pos
  · intro k
    rw [get_zeros]
    apply Nat.zero_le

/-- A row of values that was stored leaves bytes that fit. -/
theorem Fits.writeBytes {m m' : Memory bank} (fits : m.Fits) (wide : 0 ≤ bank.itemBits)
    {location : Int} {values : List Int} (stored : m.writeBytes location values = .ok m') :
  m'.Fits
  := by
  by_cases filled : values = []
  · rw [Memory.writeBytes, if_pos filled] at stored
    cases stored
    exact fits
  · obtain ⟨⟨-, takes⟩, rfl⟩ := (m.writeBytes_eq_ok_iff wide filled).mp stored
    have held : ∀ item ∈ values.map Int.toNat, item < twoPow bank.width ∧ item ≤ 255 := by
      intro item member
      obtain ⟨v, taken, rfl⟩ := List.mem_map.mp member
      obtain ⟨nonneg, narrow, byte⟩ := takes v taken
      omega
    constructor
    · intro k
      have top := twoPow_pos bank.width
      have bound : ∀ k, m.get k ≤ twoPow bank.width - 1 :=
        fun k => Nat.le_sub_one_of_lt (fits.narrow k)
      have small : ∀ item ∈ values.map Int.toNat, item ≤ twoPow bank.width - 1 :=
        fun item member => Nat.le_sub_one_of_lt (held item member).1
      have := get_store_le _ bound small location.toNat k
      omega
    · apply get_store_le _ fits.byte
      intro item member
      exact (held item member).2

/-- What is computed from a value is there only with the value. -/
theorem eq_ok_of_map {α β : Type} {x : Except Fault α} {f : α → β} {b : β}
    (made : (do return f (← x)) = Except.ok b) :
  ∃ a, x = .ok a ∧ f a = b
  := by
  cases x with
  | ok a => exact ⟨a, rfl, Except.ok.inj made⟩
  | error e => cases made

/-- What is computed from a value fails only with the value. -/
theorem eq_error_of_map {α β : Type} {x : Except Fault α} {f : α → β} {e : Fault}
    (failed : (do return f (← x)) = Except.error e) :
  x = .error e
  := by
  cases x with
  | ok a => cases failed
  | error e' => exact congrArg Except.error (Except.error.inj failed)

/-- A call that is answered leaves bytes that fit. -/
theorem Fits.answer {m m' : Memory bank} (fits : m.Fits) (wide : 0 ≤ bank.itemBits)
    {call : MemoryCall} {reply : MemoryReply} (answered : m.answer call = .ok (reply, m')) :
  m'.Fits
  := by
  cases call with
  | check location =>
      obtain ⟨_, -, ⟨⟩⟩ := eq_ok_of_map answered
      exact fits
  | read location length =>
      obtain ⟨_, -, ⟨⟩⟩ := eq_ok_of_map answered
      exact fits
  | readBytes location length =>
      obtain ⟨_, -, ⟨⟩⟩ := eq_ok_of_map answered
      exact fits
  | write location value =>
      obtain ⟨_, stored, ⟨⟩⟩ := eq_ok_of_map answered
      rw [write_eq] at stored
      exact fits.writeBytes wide stored
  | writeBytes location values =>
      obtain ⟨_, stored, ⟨⟩⟩ := eq_ok_of_map answered
      exact fits.writeBytes wide stored
  | clear =>
      cases answered
      exact fits_zeros

/-- A call leaves bytes that fit, whether it is refused or not. -/
theorem Fits.after {m : Memory bank} (fits : m.Fits) (wide : 0 ≤ bank.itemBits)
    (call : MemoryCall) :
  (m.after call).Fits
  := by
  rw [after_eq]
  cases answered : m.answer call with
  | ok replied => exact fits.answer wide answered
  | error e => exact fits

theorem fits_along (wide : 0 ≤ bank.itemBits) (calls : List MemoryCall) :
  ((zeros : Memory bank).along calls).Fits
  := by
  have kept : ∀ {m : Memory bank}, m.Fits → (m.along calls).Fits := by
    induction calls with
    | nil => exact id
    | cons call calls ih => exact fun fits => ih (fits.after wide call)
  exact kept fits_zeros

theorem refuses_of_checkAddress {a : Int} {values : List Int} {e : Fault}
    (refused : checkAddress bank a = .error e) :
  bank.Refuses values e
  := by
  by_cases inside : 0 ≤ a ∧ a < bank.size
  · rw [checkAddress_of_inside inside] at refused
    cases refused
  · rw [checkAddress_of_outside inside] at refused
    cases refused
    exact .address inside

theorem refuses_of_readBytes {m : Memory bank} {location length : Int} {values : List Int}
    {e : Fault} (refused : m.readBytes location length = .error e) :
  bank.Refuses values e
  := by
  by_cases spans : bank.Spans location length
  · rw [m.readBytes_of_spans spans] at refused
    cases refused
  · obtain ⟨a, outside, row⟩ := m.readBytes_of_not_spans spans
    rw [row] at refused
    cases refused
    exact .address outside

theorem refuses_of_writeBytes {m : Memory bank} (wide : 0 ≤ bank.itemBits) {location : Int}
    {values : List Int} {e : Fault} (refused : m.writeBytes location values = .error e) :
  bank.Refuses values e
  := by
  by_cases filled : values = []
  · rw [writeBytes, if_pos filled] at refused
    cases refused
  · rcases m.writeBytes_cases wide location filled with ⟨-, stored⟩ | ⟨-, e', failed, reason⟩
    · cases refused.symm.trans stored
    · cases refused.symm.trans failed
      exact reason

/-- A call that is refused leaves the memory as it was, and is refused for its addresses, its
values, or a number that is too long. -/
theorem refused_of_serve {m m' : Memory bank} (fits : m.Fits) (wide : 0 ≤ bank.itemBits)
    {call : MemoryCall} {e : Fault} (failed : serve call m = .error e m') :
  m' = m ∧ call.Refused bank e
  := by
  have refused : m.answer call = .error e ∧ m' = m := by
    rw [serve_eq] at failed
    cases answered : m.answer call with
    | ok replied =>
        rw [answered] at failed
        cases failed
    | error e' =>
        rw [answered] at failed
        cases failed
        exact ⟨rfl, rfl⟩
  obtain ⟨refused, rfl⟩ := refused
  constructor
  · rfl
  · cases call with
    | check location => exact .byBank (refuses_of_checkAddress (eq_error_of_map refused))
    | read location length =>
        have failed := eq_error_of_map refused
        by_cases spans : bank.Spans location length
        · rcases read_of_spans fits wide spans with ⟨-, read⟩ | ⟨-, read⟩
          · cases failed.symm.trans read
          · cases failed.symm.trans read
            exact .large rfl
        · obtain ⟨a, outside, row⟩ := m'.readBytes_of_not_spans spans
          rw [read, row] at failed
          cases failed
          exact .byBank (.address outside)
    | readBytes location length => exact .byBank (refuses_of_readBytes (eq_error_of_map refused))
    | write location value =>
        have failed := eq_error_of_map refused
        rw [write_eq] at failed
        exact .byBank (refuses_of_writeBytes wide failed)
    | writeBytes location values =>
        exact .byBank (refuses_of_writeBytes wide (eq_error_of_map refused))
    | clear => cases refused

/-- A row is stored exactly if it lies within the bounds and each value fits an item and a byte. -/
theorem exists_writeBytes_iff (m : Memory bank) (wide : 0 ≤ bank.itemBits) (location : Int)
    {values : List Int} (filled : values ≠ []) :
  (∃ m', m.writeBytes location values = .ok m') ↔
    0 ≤ location ∧ location + values.length ≤ bank.size ∧
      ∀ v ∈ values, 0 ≤ v ∧ v ≤ min ((twoPow bank.width : Int) - 1) 255
  := by
  simp only [m.writeBytes_eq_ok_iff wide filled, exists_and_left, exists_eq, and_true]
  have long := List.length_pos_iff.mpr filled
  constructor
  · rintro ⟨⟨first, last⟩, takes⟩
    refine ⟨first.1, by omega, ?_⟩
    intro v member
    obtain ⟨nonneg, narrow, byte⟩ := takes v member
    omega
  · rintro ⟨nonneg, room, takes⟩
    refine ⟨⟨⟨nonneg, by omega⟩, by omega, by omega⟩, ?_⟩
    intro v member
    have := takes v member
    constructor <;> omega

/-- A row that was stored is read again, and all other bytes are as they were. -/
theorem writeBytes_reads {m m' : Memory bank} (wide : 0 ≤ bank.itemBits) {location : Int}
    {values : List Int} (filled : values ≠ []) (stored : m.writeBytes location values = .ok m') :
  (∃ row, m'.readBytes location values.length = .ok row ∧
      row.map (fun byte : Nat => (byte : Int)) = values) ∧
    ∀ a : Nat, ¬(location ≤ a ∧ a < location + values.length) → m'.get a = m.get a
  := by
  obtain ⟨⟨spans, takes⟩, rfl⟩ := (m.writeBytes_eq_ok_iff wide filled).mp stored
  obtain ⟨a, rfl⟩ := Int.eq_ofNat_of_zero_le spans.first.1
  have length : (values.map Int.toNat).length = values.length := List.length_map _
  have inside : a + (values.map Int.toNat).length ≤ bank.size := by
    have := spans.last.2
    omega
  constructor
  · use values.map Int.toNat
    constructor
    · rw [readBytes_of_spans _ spans, Int.toNat_natCast, Int.toNat_natCast, ← length,
        extract_store m inside]
    · rw [List.map_map]
      apply Eq.trans (List.map_congr_left _) (List.map_id values)
      intro v member
      exact Int.toNat_of_nonneg (takes v member).nonneg
  · intro b outside
    rw [Int.toNat_natCast, get_store _ _ _ _ inside, dif_neg]
    omega

/-- Two items that are wider than can be written in base ten. -/
def wideItems : Bank := ⟨"RAM", Nat.pow 10 Numeral.maxDigits, 2⟩

end Memory

end Chip8
