import Chip8.Screen
import Chip8.Proofs.Memory

/-!
# Switching pixels

A pixel is switched by flipping the one bit of its location. A row of flips is told by how often
each location occurs in it (`Memory.get_toggleAll`), so their order does not matter. A column and
a row have their location around the edges of the display (`Geometry.place`), and the screen flips
exactly that one (`Screen.flip_eq_ok`).
-/

namespace Chip8

/-! ### Flips -/

namespace Memory

variable {bank : Bank}

/-- The memory with the bit of a location flipped. -/
def toggle (m : Memory bank) (k : Nat) : Memory bank := m.set k (m.get k ^^^ 1)

/-- The memory with the bits of locations flipped one after the other. -/
def toggleAll (m : Memory bank) : List Nat → Memory bank
  | [] => m
  | k :: ks => (m.toggle k).toggleAll ks

/-- Whether some location in a row of flips held a one when it was flipped. -/
def collides (m : Memory bank) : List Nat → Bool
  | [] => false
  | k :: ks => m.get k == 1 || (m.toggle k).collides ks

/-- Whether the locations of a memory hold bits. -/
def IsBits (m : Memory bank) : Prop := ∀ k, m.get k ≤ 1

theorem xor_one_eq {b : Nat} (h : b ≤ 1) :
  b ^^^ 1 = 1 - b
  := by
  rcases Nat.le_one_iff_eq_zero_or_eq_one.mp h with rfl | rfl <;> rfl

theorem xor_one_le {b : Nat} (h : b ≤ 1) :
  b ^^^ 1 ≤ 1
  := by
  rw [xor_one_eq h]
  apply Nat.sub_le

theorem IsBits.toggle {m : Memory bank} (h : m.IsBits) (k : Nat) :
  (m.toggle k).IsBits
  := by
  intro j
  apply get_set_le h (xor_one_le (h k))

theorem IsBits.toggleAll {m : Memory bank} (h : m.IsBits) (ks : List Nat) :
  (m.toggleAll ks).IsBits
  := by
  induction ks generalizing m with
  | nil => apply h
  | cons k ks ih => apply ih (h.toggle k)

theorem toggleAll_append (m : Memory bank) (ks ls : List Nat) :
  m.toggleAll (ks ++ ls) = (m.toggleAll ks).toggleAll ls
  := by
  induction ks generalizing m with
  | nil => rfl
  | cons k ks ih => apply ih

theorem collides_append (m : Memory bank) (ks ls : List Nat) :
  m.collides (ks ++ ls) = (m.collides ks || (m.toggleAll ks).collides ls)
  := by
  induction ks generalizing m with
  | nil => rfl
  | cons k ks ih =>
      show (_ || (m.toggle k).collides (ks ++ ls)) = (_ || _ || _)
      rw [ih, Bool.or_assoc]
      rfl

theorem get_toggle (m : Memory bank) (k : Nat) {j : Nat} (inside : j < bank.size) :
  (m.toggle k).get j = if j = k then m.get j ^^^ 1 else m.get j
  := by
  rw [toggle, get_set]
  by_cases h : j = k
  · subst h
    rw [if_pos ⟨rfl, inside⟩, if_pos rfl]
  · rw [if_neg (fun both => h both.1), if_neg h]

theorem get_toggle_of_ne (m : Memory bank) {j k : Nat} (other : j ≠ k) :
  (m.toggle k).get j = m.get j
  := by
  rw [toggle, get_set]
  apply if_neg
  intro both
  apply other both.1

/-- In a row without repetitions every location is flipped as it was before the row. -/
theorem collides_iff {m : Memory bank} {ks : List Nat} (nodup : ks.Nodup) :
  m.collides ks = true ↔ ∃ k ∈ ks, m.get k = 1
  := by
  induction ks generalizing m with
  | nil => simp [collides]
  | cons k ks ih =>
      obtain ⟨fresh, nodup'⟩ := List.nodup_cons.mp nodup
      have kept : ∀ j ∈ ks, (m.toggle k).get j = m.get j := by
        intro j hj
        apply m.get_toggle_of_ne
        rintro rfl
        apply fresh hj
      have rest : (∃ j ∈ ks, (m.toggle k).get j = 1) ↔ ∃ j ∈ ks, m.get j = 1 := by
        apply exists_congr
        intro j
        apply and_congr_right
        intro hj
        rw [kept j hj]
      rw [collides, Bool.or_eq_true, beq_iff_eq, ih nodup', rest]
      simp only [List.mem_cons, exists_eq_or_imp]

/-- A location is flipped by a row of flips as often as it occurs in the row. -/
theorem get_toggleAll (m : Memory bank) (ks : List Nat) {j : Nat} (inside : j < bank.size) :
  (m.toggleAll ks).get j = if ks.count j % 2 = 1 then m.get j ^^^ 1 else m.get j
  := by
  induction ks generalizing m with
  | nil => rfl
  | cons k ks ih =>
      show ((m.toggle k).toggleAll ks).get j = _
      rw [ih, get_toggle m k inside, List.count_cons]
      by_cases h : j = k
      · subst h
        have twice : (m.get j ^^^ 1) ^^^ 1 = m.get j := by
          rw [Nat.xor_assoc, Nat.xor_self, Nat.xor_zero]
        rw [if_pos rfl, beq_self_eq_true, if_pos rfl, twice]
        by_cases odd : ks.count j % 2 = 1
        · have even : ¬((ks.count j + 1) % 2 = 1) := by omega
          rw [if_pos odd, if_neg even]
        · have odd' : (ks.count j + 1) % 2 = 1 := by omega
          rw [if_neg odd, if_pos odd']
      · have h' : ¬((k == j) = true) := by
          rw [beq_iff_eq]
          intro e
          apply h e.symm
        rw [if_neg h, if_neg h', Nat.add_zero]

end Memory

/-! ### Locations of pixels -/

namespace Geometry

/-- The location of the pixel in a column and a row, both taken around the edges. -/
def place (g : Geometry) (x y : Int) : Nat := (y % g.height * g.width + x % g.width).toNat

/-- The video memory has a location for each pixel. -/
theorem size_bank {g : Geometry} (w : 0 < g.width) (h : 0 < g.height) :
  (g.bank.size : Int) = g.width * g.height
  := Int.toNat_of_nonneg (Int.mul_nonneg (Int.le_of_lt w) (Int.le_of_lt h))

/-- What the location of a pixel is as an integer, which is one of the display's. -/
theorem place_spec {g : Geometry} (w : 0 < g.width) (h : 0 < g.height) (x y : Int) :
  (g.place x y : Int) = y % g.height * g.width + x % g.width ∧ g.place x y < g.bank.size
  := by
  have column := Int.emod_nonneg x (Int.ne_of_gt w)
  have column' := Int.emod_lt_of_pos x w
  have row := Int.emod_nonneg y (Int.ne_of_gt h)
  have row' := Int.emod_lt_of_pos y h
  have rows : y % g.height * g.width ≤ (g.height - 1) * g.width :=
    Int.mul_le_mul_of_nonneg_right (by omega) (Int.le_of_lt w)
  have nonneg : 0 ≤ y % g.height * g.width := Int.mul_nonneg row (Int.le_of_lt w)
  have size := size_bank w h
  rw [Int.sub_mul, Int.one_mul, Int.mul_comm g.height g.width] at rows
  constructor
  · apply Int.toNat_of_nonneg
    omega
  · rw [place]
    omega

theorem address_eq_ok {g : Geometry} (w : 0 < g.width) (h : 0 < g.height) (x y : Int) :
  Screen.address g x y = .ok (g.place x y : Int)
  := by
  have pixels : ¬(g.width = 0 ∨ g.height = 0) := by omega
  rw [Screen.address, if_neg pixels, (place_spec w h x y).1,
    Int.fmod_eq_emod_of_nonneg y (Int.le_of_lt h), Int.fmod_eq_emod_of_nonneg x (Int.le_of_lt w)]

end Geometry

/-! ### The screen -/

namespace Screen

variable {g : Geometry}

/-- A pixel that is switched is the one whose location the column and the row have. -/
theorem flip_eq_ok (fb : Screen g) (w : 0 < g.width) (h : 0 < g.height) (bits : fb.vram.IsBits)
    (x y : Int) :
  fb.flip x y =
    .ok (fb.vram.get (g.place x y) == 1,
      { fb with vram := fb.vram.toggle (g.place x y) })
  := by
  obtain ⟨-, inside⟩ := Geometry.place_spec w h x y
  have narrow : fb.vram.get (g.place x y) ^^^ 1 < twoPow 1 :=
    Nat.lt_succ_of_le (Memory.xor_one_le (bits _))
  have byte : fb.vram.get (g.place x y) ^^^ 1 < 256 := Nat.lt_trans narrow (by decide)
  have stored : fb.vram.write (g.place x y) (fb.vram.get (g.place x y) ^^^ 1 : Nat) =
      .ok (fb.vram.toggle (g.place x y)) :=
    @Memory.write_eq_ok _ fb.vram _ _ 1 rfl inside narrow byte
  rw [flip, Geometry.address_eq_ok w h]
  show (fb.vram.read (g.place x y) 1 >>= _) = _
  rw [Memory.read_one fb.vram Int.one_nonneg inside]
  show (fb.vram.write (g.place x y) (fb.vram.get (g.place x y) ^^^ 1 : Nat) >>= _) = _
  rw [stored]
  rfl

end Screen

end Chip8
