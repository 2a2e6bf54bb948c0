import Chip8.Memory

/-!
# Access to single locations

Reading and writing one location succeeds exactly within the bounds of the memory. What a memory
holds is told by `Memory.get`, so a range of the bytes is kept by every write of a byte in range.
-/

namespace Chip8.Memory

variable {bank : Bank}

/-! ### Addresses -/

theorem checkAddress_of_inside {a : Int} (inside : 0 ≤ a ∧ a < bank.size) :
  checkAddress bank a = .ok ()
  := by
  rw [checkAddress, if_neg (by omega)]

theorem checkAddress_of_outside {a : Int} (outside : ¬(0 ≤ a ∧ a < bank.size)) :
  checkAddress bank a = .error (.badAddress bank.name a)
  := by
  rw [checkAddress, if_pos (by omega)]

theorem checkAddress_eq_ok {a : Nat} (inside : a < bank.size) :
  checkAddress bank a = .ok ()
  := checkAddress_of_inside (by omega)

theorem checkAddress_eq_error {a : Nat} (outside : bank.size ≤ a) :
  checkAddress bank a = .error (.badAddress bank.name a)
  := checkAddress_of_outside (by omega)

/-! ### Reading -/

/-- A row of locations within the bounds is read. -/
theorem readBytes_eq_ok (m : Memory bank) {a n : Nat} (filled : 0 < n)
    (inside : a + n ≤ bank.size) :
  m.readBytes a n = .ok (m.extract a n)
  := by
  have last : (a : Int) + n - 1 = (a + n - 1 : Nat) := by omega
  rw [readBytes, checkAddress_eq_ok (by omega), last, checkAddress_eq_ok (by omega)]
  rfl

/-- A row of locations that begins beyond the bounds is refused at its first address. -/
theorem readBytes_eq_error (m : Memory bank) {a : Nat} (n : Int) (outside : bank.size ≤ a) :
  m.readBytes a n = .error (.badAddress bank.name a)
  := by
  rw [readBytes, checkAddress_eq_error outside]
  rfl

/-- One location is read as it is, whatever the width of an item. -/
theorem read_one (m : Memory bank) {a : Nat} (width : 0 ≤ bank.itemBits) (inside : a < bank.size) :
  m.read a 1 = .ok (m.get a)
  := by
  have row : m.readBytes a 1 = .ok [m.get a] :=
    m.readBytes_eq_ok (n := 1) (by omega) inside
  have h : ¬(bank.itemBits < 0) := by omega
  rw [read, row]
  show join bank.itemBits 0 (m.get a) >>= _ = _
  rw [join, if_neg h, if_pos rfl]
  rfl

theorem read_one_outside (m : Memory bank) {a : Nat} (outside : bank.size ≤ a) :
  m.read a 1 = .error (.badAddress bank.name a)
  := by
  rw [read, m.readBytes_eq_error 1 outside]
  rfl

/-! ### Writing -/

/-- A byte of the width of an item is stored. -/
theorem write_eq_ok (m : Memory bank) {a v width : Nat} (bits : bank.itemBits = width)
    (inside : a < bank.size) (narrow : v < twoPow width) (byte : v < 256) :
  m.write a v = .ok (m.set a v)
  := by
  have fits : fit bank.name width v = .ok v := fit_eq_ok bank.name (by omega) (by omega)
  have h : ¬(255 < v) := by omega
  rw [write, byteFor, checkAddress_eq_ok inside, bits, fits]
  show (checkByte v >>= _) = _
  rw [checkByte, if_neg h]
  rfl

theorem write_outside (m : Memory bank) {a : Nat} (v : Int) (outside : bank.size ≤ a) :
  m.write a v = .error (.badAddress bank.name a)
  := by
  rw [write, byteFor, checkAddress_eq_error outside]
  rfl

/-- A row of checks that all succeed yields what each of them yields. -/
theorem mapM_eq_ok {ε α β : Type} {f : α → Except ε β} {g : α → β} {xs : List α}
    (h : ∀ x ∈ xs, f x = .ok (g x)) :
  xs.mapM f = .ok (xs.map g)
  := by
  induction xs with
  | nil => rfl
  | cons x xs ih =>
      obtain ⟨first, rest⟩ := List.forall_mem_cons.mp h
      rw [List.mapM_cons, first, ih rest]
      rfl

/-- A row of bytes of the width of an item is stored. -/
theorem writeBytes_eq_ok (m : Memory bank) {a width : Nat} {bytes : List Nat}
    (bits : bank.itemBits = width) (inside : a + bytes.length ≤ bank.size)
    (narrow : ∀ v ∈ bytes, v < twoPow width) (small : ∀ v ∈ bytes, v < 256) :
  m.writeBytes a (bytes.map fun v : Nat => (v : Int)) = .ok (m.store a bytes)
  := by
  cases bytes with
  | nil => rfl
  | cons v bytes =>
      have last : (a : Int) + ((v :: bytes).map fun v : Nat => (v : Int)).length - 1 =
          (a + bytes.length : Nat) := by
        rw [List.length_map, List.length_cons]
        omega
      rw [List.length_cons] at inside
      have filled : ¬((v :: bytes).map (fun v : Nat => (v : Int)) = []) := List.cons_ne_nil _ _
      have items : ((v :: bytes).map fun v : Nat => (v : Int)).mapM (fit bank.name bank.itemBits) =
          .ok (v :: bytes) := by
        have fits : ∀ w ∈ v :: bytes, fit bank.name bank.itemBits (w : Nat) = .ok w := by
          intro w hw
          have key := narrow w hw
          rw [bits]
          apply fit_eq_ok bank.name <;> omega
        rw [List.mapM_map]
        apply Eq.trans (mapM_eq_ok fits)
        rw [List.map_id']
      have checked : (v :: bytes).mapM checkByte = .ok (v :: bytes) := by
        have bound : ∀ w ∈ v :: bytes, checkByte w = .ok w := by
          intro w hw
          rw [checkByte, if_neg (Nat.not_lt_of_ge (Nat.le_of_lt_succ (small w hw)))]
        rw [mapM_eq_ok bound, List.map_id']
      rw [writeBytes, if_neg filled, bytesFor,
        checkAddress_eq_ok (by omega), last, checkAddress_eq_ok (by omega), items]
      show ((v :: bytes).mapM checkByte >>= _) = _
      rw [checked]
      rfl

/-- As much of a row as there is room for is stored up to the last location. -/
theorem get_store_take (m : Memory bank) {a k : Nat} {row : List Nat} (begins : a ≤ bank.size)
    (long : bank.size ≤ a + row.length) (inside : k < bank.size) :
  (m.store a (row.take (bank.size - a))).get k = if a ≤ k then row.getD (k - a) 0 else m.get k
  := by
  have length : (row.take (bank.size - a)).length = bank.size - a := by
    rw [List.length_take]
    omega
  rw [get_store _ _ _ _ (by omega)]
  by_cases h : a ≤ k
  · have stored : a ≤ k ∧ k < a + (row.take (bank.size - a)).length := by omega
    have last : k - a < row.length := by omega
    rw [dif_pos stored, if_pos h, List.getElem_take, List.getD_eq_getElem?_getD,
      List.getElem?_eq_getElem last, Option.getD_some]
  · rw [dif_neg (fun stored => h stored.1), if_neg h]

/-! ### Bounds on the bytes -/

/-- Storing a byte in range keeps all bytes in range. -/
theorem get_set_le {m : Memory bank} {bound v : Nat} (h : ∀ k, m.get k ≤ bound) (small : v ≤ bound)
    (a k : Nat) :
  (m.set a v).get k ≤ bound
  := by
  rw [get_set]
  split
  · apply small
  · apply h

/-- Storing a row of bytes in range keeps all bytes in range. -/
theorem get_store_le {bound : Nat} (bytes : List Nat) {m : Memory bank} (h : ∀ k, m.get k ≤ bound)
    (small : ∀ v ∈ bytes, v ≤ bound) (a k : Nat) :
  (m.store a bytes).get k ≤ bound
  := by
  induction bytes generalizing m a with
  | nil => apply h
  | cons v bytes ih =>
      apply ih
      · intro k
        apply get_set_le h (small v List.mem_cons_self)
      · intro w hw
        apply small w (List.mem_cons_of_mem v hw)

end Chip8.Memory
