import Chip8.Proofs.Action
import Mathlib.Data.List.Basic

/-!
# Rows of registers

Registers are stored and loaded one after the other while the address register moves on. Since it
does not leave the address space, a transfer stops behind the last location of the memory: the
register which goes there is still transferred, and then the address register is refused. The
transfer of a whole row is told by `Memory.store` and `Machine.load`.
-/

namespace Chip8

namespace Machine

/-- The machine with the bytes from an address on loaded into the registers of a list. -/
def load (m : Machine) : List (Fin 16) → Nat → Machine
  | [], _ => m
  | x :: xs, a => (m.withData x (m.ram.get a)).load xs (a + 1)

/-- Loading does not depend on the address register and leaves it. -/
theorem load_withIndex (m : Machine) (xs : List (Fin 16)) (a n : Nat) :
  (m.withIndex n).load xs a = (m.load xs a).withIndex n
  := by
  induction xs generalizing m a with
  | nil => rfl
  | cons x xs ih => apply ih (m.withData x (m.ram.get a))

/-- Loading changes nothing but data registers. -/
theorem load_eq (m : Machine) (xs : List (Fin 16)) (a : Nat) :
  m.load xs a =
    { m with registers := { m.registers with data := (m.load xs a).registers.data } }
  := by
  induction xs generalizing m a with
  | nil => rfl
  | cons x xs ih => apply ih (m.withData x (m.ram.get a))

theorem load_ram (m : Machine) (xs : List (Fin 16)) (a : Nat) :
  (m.load xs a).ram = m.ram
  := by rw [load_eq]

theorem load_screen (m : Machine) (xs : List (Fin 16)) (a : Nat) :
  (m.load xs a).screen = m.screen
  := by rw [load_eq]

theorem get_load_of_not_mem (m : Machine) {xs : List (Fin 16)} {y : Fin 16} (other : y ∉ xs)
    (a : Nat) :
  (m.load xs a).registers.get y = m.registers.get y
  := by
  induction xs generalizing m a with
  | nil => rfl
  | cons x xs ih =>
      rw [List.mem_cons, not_or] at other
      obtain ⟨differ, other'⟩ := other
      apply Eq.trans (ih (m.withData x (m.ram.get a)) other' (a + 1))
      rw [get_withData, if_neg differ]

/-- Every register of a list without repetitions gets the byte at its place. -/
theorem get_load_getElem (m : Machine) {xs : List (Fin 16)} (nodup : xs.Nodup) (a : Nat) {k : Nat}
    (h : k < xs.length) :
  (m.load xs a).registers.get xs[k] = m.ram.get (a + k)
  := by
  induction xs generalizing m a k with
  | nil => cases h
  | cons x xs ih =>
      obtain ⟨fresh, nodup'⟩ := List.nodup_cons.mp nodup
      cases k with
      | zero =>
          apply Eq.trans (get_load_of_not_mem (m.withData x (m.ram.get a)) fresh (a + 1))
          rw [get_withData]
          apply if_pos rfl
      | succ k =>
          apply Eq.trans (ih (m.withData x (m.ram.get a)) nodup' (a + 1) (Nat.lt_of_succ_lt_succ h))
          rw [Nat.add_assoc, Nat.add_comm 1 k]
          rfl

/-- The first registers get the bytes from the address on. -/
theorem get_load_take (m : Machine) (k a : Nat) (y : Fin 16) :
  (m.load ((List.finRange 16).take k) a).registers.get y =
    if y.val < k then m.ram.get (a + y.val) else m.registers.get y
  := by
  by_cases early : y.val < k
  · have nodup : ((List.finRange 16).take k).Nodup :=
      List.Nodup.sublist (List.take_sublist _ _) (List.nodup_finRange 16)
    have h : y.val < ((List.finRange 16).take k).length := by
      rw [List.length_take, List.length_finRange]
      omega
    have place : ((List.finRange 16).take k)[y.val] = y := by
      rw [List.getElem_take, List.getElem_finRange]
      rfl
    have key := m.get_load_getElem nodup a h
    rw [place] at key
    rw [if_pos early, key]
  · have other : y ∉ (List.finRange 16).take k := by
      intro member
      obtain ⟨i, h, same⟩ := List.mem_take_iff_getElem.mp member
      rw [List.getElem_finRange] at same
      apply early
      rw [← same]
      exact Nat.lt_of_lt_of_le h (Nat.min_le_left _ _)
    rw [m.get_load_of_not_mem other, if_neg early]

end Machine

namespace Action

/-! ### The registers up to one -/

theorem length_registersTo (x : Fin 16) :
  (registersTo x).length = x.val + 1
  := by
  rw [registersTo, List.length_take, List.length_finRange]
  omega

theorem getElem_registersTo (x : Fin 16) {k : Nat} (h : k < (registersTo x).length) :
  ((registersTo x)[k]).val = k
  := by
  simp only [registersTo, List.getElem_take, List.getElem_finRange, Fin.val_cast]

variable {m : Machine}

/-! ### Moving on -/

theorem addIndex_inside (near : m.registers.i.value < 0xfff) :
  addIndex 1 m = .ok () (m.withIndex (m.registers.i.value + 1))
  := addIndex_eq_ok (n := 1) m (by omega)

/-- The address register does not move behind the last location. -/
theorem addIndex_last (last : m.registers.i.value = 0xfff) :
  addIndex 1 m = .error (.tooWide "I" 12 0x1000) (m.withIndex 0xfff)
  := by
  have refused := addIndex_eq_error (n := 1) m (by omega)
  have kept : m.withIndex 0xfff = m := by
    rw [← last]
    rfl
  rw [last] at refused
  rw [kept]
  apply refused

/-! ### Storing -/

/-- A row of registers is stored if the address register can move behind it. -/
theorem storeRegisters_eq_ok (xs : List (Fin 16)) (bytes : ∀ x, m.registers.get x < 256)
    (room : m.registers.i.value + xs.length < 0x1000) :
  storeRegisters xs m =
    .ok () ((m.withRam (m.ram.store m.registers.i.value (xs.map m.registers.get))).withIndex
      (m.registers.i.value + xs.length))
  := by
  induction xs generalizing m with
  | nil => rfl
  | cons x xs ih =>
      rw [List.length_cons] at room ⊢
      let stored := m.withRam (m.ram.set m.registers.i.value (m.registers.get x))
      have near : m.registers.i.value < 0xfff := by omega
      have room' : m.registers.i.value + 1 + xs.length < 0x1000 := by omega
      have rest := @ih (stored.withIndex (m.registers.i.value + 1)) bytes room'
      rw [storeRegisters, bind_of_ok (index_apply m), bind_of_ok (register_apply x m),
        bind_of_ok (setByteAt_eq_ok m (by omega) (bytes x)),
        bind_of_ok (addIndex_inside (m := stored) near), Nat.add_comm xs.length, ← Nat.add_assoc]
      apply rest

/-- A transfer that reaches the end of the memory stores the registers which go there. -/
theorem storeRegisters_eq_error (xs : List (Fin 16)) (bytes : ∀ x, m.registers.get x < 256)
    (index : m.registers.i.value < 0x1000) (short : 0x1000 ≤ m.registers.i.value + xs.length) :
  storeRegisters xs m =
    .error (.tooWide "I" 12 0x1000)
      ((m.withRam (m.ram.store m.registers.i.value
        ((xs.take (0x1000 - m.registers.i.value)).map m.registers.get))).withIndex 0xfff)
  := by
  induction xs generalizing m with
  | nil =>
      rw [List.length_nil] at short
      omega
  | cons x xs ih =>
      rw [List.length_cons] at short
      let stored := m.withRam (m.ram.set m.registers.i.value (m.registers.get x))
      have taken : 0x1000 - m.registers.i.value = 0x1000 - (m.registers.i.value + 1) + 1 := by omega
      rw [storeRegisters, bind_of_ok (index_apply m), bind_of_ok (register_apply x m),
        bind_of_ok (setByteAt_eq_ok m (by omega) (bytes x)), taken, List.take_succ_cons]
      -- At the last location moving on is refused; before it, a later register is.
      by_cases last : m.registers.i.value = 0xfff
      · have none : 0x1000 - (m.registers.i.value + 1) = 0 := by omega
        rw [bind_of_error (addIndex_last (m := stored) last), none, List.take_zero]
        rfl
      · have near : m.registers.i.value < 0xfff := by omega
        have index' : m.registers.i.value + 1 < 0x1000 := by omega
        have short' : 0x1000 ≤ m.registers.i.value + 1 + xs.length := by omega
        have rest := @ih (stored.withIndex (m.registers.i.value + 1)) bytes index' short'
        rw [bind_of_ok (addIndex_inside (m := stored) near)]
        apply rest

/-! ### Loading -/

/-- A row of registers is loaded if the address register can move behind it. -/
theorem loadRegisters_eq_ok (xs : List (Fin 16)) (bytes : ∀ k, m.ram.get k < 256)
    (room : m.registers.i.value + xs.length < 0x1000) :
  loadRegisters xs m =
    .ok () ((m.load xs m.registers.i.value).withIndex (m.registers.i.value + xs.length))
  := by
  induction xs generalizing m with
  | nil => rfl
  | cons x xs ih =>
      rw [List.length_cons] at room ⊢
      let loaded := m.withData x (m.ram.get m.registers.i.value)
      have near : m.registers.i.value < 0xfff := by omega
      have room' : m.registers.i.value + 1 + xs.length < 0x1000 := by omega
      have rest := @ih (loaded.withIndex (m.registers.i.value + 1)) bytes room'
      rw [Machine.load_withIndex] at rest
      rw [loadRegisters, bind_of_ok (index_apply m), bind_of_ok (byteAt_eq_ok m (by omega)),
        bind_of_ok (setRegister_eq_ok x m (bytes _)),
        bind_of_ok (addIndex_inside (m := loaded) near), Nat.add_comm xs.length, ← Nat.add_assoc]
      apply rest

/-- A transfer that reaches the end of the memory loads the registers whose bytes are there. -/
theorem loadRegisters_eq_error (xs : List (Fin 16)) (bytes : ∀ k, m.ram.get k < 256)
    (index : m.registers.i.value < 0x1000) (short : 0x1000 ≤ m.registers.i.value + xs.length) :
  loadRegisters xs m =
    .error (.tooWide "I" 12 0x1000)
      ((m.load (xs.take (0x1000 - m.registers.i.value)) m.registers.i.value).withIndex 0xfff)
  := by
  induction xs generalizing m with
  | nil =>
      rw [List.length_nil] at short
      omega
  | cons x xs ih =>
      rw [List.length_cons] at short
      let loaded := m.withData x (m.ram.get m.registers.i.value)
      have taken : 0x1000 - m.registers.i.value = 0x1000 - (m.registers.i.value + 1) + 1 := by omega
      rw [loadRegisters, bind_of_ok (index_apply m), bind_of_ok (byteAt_eq_ok m (by omega)),
        bind_of_ok (setRegister_eq_ok x m (bytes _)), taken, List.take_succ_cons]
      by_cases last : m.registers.i.value = 0xfff
      · have none : 0x1000 - (m.registers.i.value + 1) = 0 := by omega
        rw [bind_of_error (addIndex_last (m := loaded) last), none, List.take_zero]
        rfl
      · have near : m.registers.i.value < 0xfff := by omega
        have index' : m.registers.i.value + 1 < 0x1000 := by omega
        have short' : 0x1000 ≤ m.registers.i.value + 1 + xs.length := by omega
        have rest := @ih (loaded.withIndex (m.registers.i.value + 1)) bytes index' short'
        rw [Machine.load_withIndex] at rest
        rw [bind_of_ok (addIndex_inside (m := loaded) near)]
        apply rest

end Action

end Chip8
