import Chip8.Cell

/-!
# Memories

A memory is a row of byte locations. The program memory and the video memory differ only in their
bank: the name used in messages, the width of an item and the number of locations. Every access
is checked against the bounds and every stored value against the width of an item, and an access
that is refused leaves the memory as it was. Several locations read together make one number, the
first location its highest part.
-/

namespace Chip8

/-- The layout of a memory. -/
structure Bank where
  /-- The name of the memory in messages. -/
  name : String
  /-- The width of an item in bits. -/
  itemBits : Int
  /-- The number of locations. -/
  size : Nat
deriving DecidableEq

namespace Bank

/-- The program memory. -/
def ram : Bank := ⟨"RAM", 8, 0x1000⟩

/-- Refuses a number of locations that no memory can have. -/
def checkSize (free : Storage) (size : Int) : Except Fault Unit :=
  match Excess.ofBytes? free size with
  | some excess => .error (.excessive excess)
  | none => if size < 0 then .error .negativeSize else .ok ()

/-- The bank of the given name, item width and number of locations. -/
def ofSize (free : Storage) (name : String) (itemBits size : Int) : Except Fault Bank := do
  checkSize free size
  return ⟨name, itemBits, size.toNat⟩

end Bank

/-- A memory laid out by a bank, with a byte in each location. -/
structure Memory (bank : Bank) where
  cells : Vector Nat bank.size
deriving DecidableEq

namespace Memory

variable {bank : Bank}

/-- The memory with zeros in all locations. -/
def zeros : Memory bank := ⟨Vector.replicate bank.size 0⟩

/-- The byte at a location; there are zeros beyond the bounds. -/
def get (m : Memory bank) (location : Nat) : Nat :=
  m.cells[location]?.getD 0

/-- The memory with another byte at a location; beyond the bounds nothing is stored. -/
def set (m : Memory bank) (location byte : Nat) : Memory bank :=
  ⟨m.cells.setIfInBounds location byte⟩

/-- The memory with a row of bytes stored from a location on. -/
def store (m : Memory bank) (location : Nat) : List Nat → Memory bank
  | [] => m
  | byte :: bytes => (m.set location byte).store (location + 1) bytes

/-- The bytes of `count` locations from a location on. -/
def extract (m : Memory bank) (location count : Nat) : List Nat :=
  (List.range count).map fun k => m.get (location + k)

/-! ### Checked access -/

/-- Refuses an address that has no location. -/
def checkAddress (bank : Bank) (address : Int) : Except Fault Unit :=
  if address < 0 ∨ (bank.size : Int) - 1 < address then .error (.badAddress bank.name address)
  else .ok ()

/-- Refuses an item which is too wide for a location, although it has the width of an item. -/
def checkByte (item : Nat) : Except Fault Nat :=
  if 255 < item then .error (.notAByte item) else .ok item

/-- The bytes of `length` locations from `location` on. The first and the last address are
checked even if the length is zero or negative, and then no byte is read. -/
def readBytes (m : Memory bank) (location length : Int) : Except Fault (List Nat) := do
  checkAddress bank location
  checkAddress bank (location + length - 1)
  return m.extract location.toNat length.toNat

/-- A row of items as one number, the first item most significant. -/
def pack (itemBits : Nat) (items : List Nat) : Nat :=
  items.foldl (fun packed item => packed <<< itemBits ||| item) 0

/-- A number with an item of a given width put after it. A number that is not zero must not get
more digits than have addresses. -/
def join (itemBits : Int) (packed item : Nat) : Except Fault Nat :=
  if itemBits < 0 then .error .negativeWidth
  else if packed = 0 then .ok item
  else if Excess.bitLimit < packed.log2 + 1 + itemBits.toNat then .error (.excessive .addresses)
  else .ok (packed <<< itemBits.toNat ||| item)

/-- The items of `length` locations from `location` on, packed into one number. -/
def read (m : Memory bank) (location length : Int) : Except Fault Nat := do
  (← m.readBytes location length).foldlM (join bank.itemBits) 0

/-- The byte as which a value is stored at a location. -/
def byteFor (bank : Bank) (location value : Int) : Except Fault Nat := do
  checkAddress bank location
  checkByte (← fit bank.name bank.itemBits value)

/-- The bytes as which values are stored from a location on. All widths are checked before the
first byte is taken. -/
def bytesFor (bank : Bank) (location : Int) (values : List Int) : Except Fault (List Nat) := do
  checkAddress bank location
  checkAddress bank (location + values.length - 1)
  let items ← values.mapM (fit bank.name bank.itemBits)
  items.mapM checkByte

/-- The memory with a value stored at a location. -/
def write (m : Memory bank) (location value : Int) : Except Fault (Memory bank) := do
  return m.set location.toNat (← byteFor bank location value)

/-- The memory with values stored from a location on; an empty row is stored anywhere. -/
def writeBytes (m : Memory bank) (location : Int) (values : List Int) :
    Except Fault (Memory bank) :=
  if values = [] then .ok m
  else do return m.store location.toNat (← bytesFor bank location values)

end Memory

/-! ### Calls -/

/-- A call on a memory. -/
inductive MemoryCall where
  /-- Checks an address. -/
  | check (location : Int)
  /-- Reads locations as one number. -/
  | read (location length : Int)
  /-- Reads locations byte by byte. -/
  | readBytes (location length : Int)
  /-- Stores a value. -/
  | write (location value : Int)
  /-- Stores a row of values. -/
  | writeBytes (location : Int) (values : List Int)
  /-- Stores zeros in all locations. -/
  | clear
deriving DecidableEq

/-- What a call on a memory returns. -/
inductive MemoryReply where
  | done
  | number (n : Nat)
  | bytes (row : List Nat)
deriving DecidableEq

/-- An action on a memory. What it stored before it failed stays there. -/
abbrev MemoryAction (bank : Bank) := EStateM Fault (Memory bank)

namespace Memory

variable {bank : Bank}

/-- Serves a call. -/
def serve : MemoryCall → MemoryAction bank MemoryReply
  | .check location => do
      MonadExcept.ofExcept (checkAddress bank location)
      return .done
  | .read location length => do
      let m ← getThe (Memory bank)
      return .number (← MonadExcept.ofExcept (m.read location length))
  | .readBytes location length => do
      let m ← getThe (Memory bank)
      return .bytes (← MonadExcept.ofExcept (m.readBytes location length))
  | .write location value => do
      let byte ← MonadExcept.ofExcept (byteFor bank location value)
      modify fun m => m.set location.toNat byte
      return .done
  | .writeBytes location values => do
      if values ≠ [] then
        let bytes ← MonadExcept.ofExcept (bytesFor bank location values)
        modify fun m => m.store location.toNat bytes
      return .done
  | .clear => do
      modify fun _ => zeros
      return .done

/-! ### The view of a memory -/

@[simp]
theorem get_zeros (location : Nat) :
  (zeros : Memory bank).get location = 0
  := by
  simp only [get, zeros, Vector.getElem?_replicate]
  split <;> rfl

theorem get_set (m : Memory bank) (location byte k : Nat) :
  (m.set location byte).get k = if k = location ∧ k < bank.size then byte else m.get k
  := by
  simp only [get, set, Vector.getElem?_setIfInBounds]
  by_cases h : location = k
  · subst h
    by_cases hk : location < bank.size
    · simp [hk]
    · simp [hk]
  · have h' : ¬k = location := fun e => h e.symm
    simp [h, h']

/-- Memories with the same bytes are equal. -/
theorem ext_get {m n : Memory bank} (h : ∀ k < bank.size, m.get k = n.get k) :
  m = n
  := by
  cases m
  cases n
  congr 1
  apply Vector.ext
  intro k hk
  have key := h k hk
  simpa [get, hk] using key

@[simp]
theorem length_extract (m : Memory bank) (location count : Nat) :
  (m.extract location count).length = count
  := by
  simp [extract]

/-- A block stored within the bounds is what its locations hold afterwards, and no other
location changes. -/
theorem get_store (bytes : List Nat) (m : Memory bank) (location k : Nat)
    (within : location + bytes.length ≤ bank.size) :
  (m.store location bytes).get k =
    if h : location ≤ k ∧ k < location + bytes.length then bytes[k - location] else m.get k
  := by
  induction bytes generalizing m location with
  | nil =>
      have h : ¬(location ≤ k ∧ k < location + ([] : List Nat).length) := by
        simp only [List.length_nil]
        omega
      rw [store, dif_neg h]
  | cons byte bytes ih =>
      simp only [List.length_cons] at within ⊢
      rw [store, ih _ _ (by omega), get_set]
      by_cases hk : k = location
      · subst hk
        have h : ¬(k + 1 ≤ k ∧ k < k + 1 + bytes.length) := by omega
        have h' : k ≤ k ∧ k < k + (bytes.length + 1) := by omega
        have h'' : k = k ∧ k < bank.size := by omega
        rw [dif_neg h, dif_pos h', if_pos h'']
        simp
      · by_cases hr : location + 1 ≤ k ∧ k < location + 1 + bytes.length
        · have h : location ≤ k ∧ k < location + (bytes.length + 1) := by omega
          have hi : k - location = k - (location + 1) + 1 := by omega
          rw [dif_pos hr, dif_pos h]
          simp [hi]
        · have h : ¬(location ≤ k ∧ k < location + (bytes.length + 1)) := by omega
          have h' : ¬(k = location ∧ k < bank.size) := fun e => hk e.1
          rw [dif_neg hr, dif_neg h, if_neg h']

/-! ### Packed items -/

/-- Items are put together as long as the number has addresses. -/
theorem join_eq_ok {itemBits packed bits : Nat} (item : Nat) (below : packed < twoPow bits)
    (room : bits + itemBits ≤ Excess.bitLimit) :
  join itemBits packed item = .ok (packed <<< itemBits ||| item)
  := by
  have h : ¬((itemBits : Int) < 0) := by omega
  rw [join, if_neg h, Int.toNat_natCast]
  split
  · next zero => simp [zero]
  · next nonzero =>
      have key : packed.log2 < bits := (Nat.log2_lt nonzero).mpr below
      rw [if_neg (by omega)]

/-- An item of its width takes the bits that the shift left free, so it is added. -/
theorem shiftLeft_or_eq {itemBits item : Nat} (packed : Nat) (narrow : item < twoPow itemBits) :
  packed <<< itemBits ||| item = packed * twoPow itemBits + item
  := by
  rw [← Nat.shiftLeft_add_eq_or_of_lt narrow packed, Nat.shiftLeft_eq]
  rfl

/-- A number which an item of its width is put after grows by that width. -/
theorem shiftLeft_or_lt {itemBits packed item bits : Nat} (below : packed < twoPow bits)
    (narrow : item < twoPow itemBits) :
  packed <<< itemBits ||| item < twoPow (bits + itemBits)
  := by
  have h : twoPow (bits + itemBits) = twoPow bits * twoPow itemBits := Nat.pow_add 2 bits itemBits
  have key : (packed + 1) * twoPow itemBits ≤ twoPow bits * twoPow itemBits :=
    Nat.mul_le_mul_right _ below
  rw [Nat.add_mul, Nat.one_mul] at key
  rw [shiftLeft_or_eq packed narrow]
  omega

/-- Reading puts a row of items together which fit their width, if all their bits have
addresses. -/
theorem foldlM_join {itemBits : Nat} {items : List Nat} {packed bits : Nat}
    (below : packed < twoPow bits) (narrow : ∀ item ∈ items, item < twoPow itemBits)
    (room : bits + items.length * itemBits ≤ Excess.bitLimit) :
  items.foldlM (join itemBits) packed =
    .ok (items.foldl (fun packed item => packed <<< itemBits ||| item) packed)
  := by
  induction items generalizing packed bits with
  | nil => rfl
  | cons item items ih =>
      rw [List.length_cons, Nat.add_mul, Nat.one_mul] at room
      rw [List.foldlM_cons, join_eq_ok item below (by omega), List.foldl_cons]
      apply ih (shiftLeft_or_lt below (narrow item List.mem_cons_self))
      · intro i hi
        apply narrow i (List.mem_cons_of_mem item hi)
      · omega

/-- What is read is the packed row, if its items fit their width and its bits have addresses. -/
theorem foldlM_join_zero {itemBits : Nat} {items : List Nat}
    (narrow : ∀ item ∈ items, item < twoPow itemBits)
    (room : items.length * itemBits ≤ Excess.bitLimit) :
  items.foldlM (join itemBits) 0 = .ok (pack itemBits items)
  := by
  have below : 0 < twoPow 0 := twoPow_pos 0
  apply foldlM_join below narrow
  omega

end Memory

end Chip8
