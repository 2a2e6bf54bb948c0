import Chip8.Proofs.Edges
import Mathlib.Data.List.Count

/-!
# Rows of switched pixels

Switching a pixel flips the bit of one location and changes nothing else, so it undoes itself
(`Memory.toggle_toggle`). What a row of switched pixels leaves is told by how often each location
occurs in it, and this is the same for all orders of the row (`Memory.toggleAll_perm`). As the
pixels of a screen are bits after whatever calls, none of the pixels is refused
(`Screen.flipAll_eq_ok`).
-/

namespace Chip8

namespace Memory

variable {bank : Bank}

/-- A bit that is flipped twice is as it was. -/
theorem toggle_toggle (m : Memory bank) (k : Nat) :
  (m.toggle k).toggle k = m
  := by
  apply ext_get
  intro j inside
  rw [get_toggle _ _ inside, get_toggle _ _ inside]
  by_cases same : j = k
  · rw [if_pos same, if_pos same, Nat.xor_assoc, Nat.xor_self, Nat.xor_zero]
  · rw [if_neg same, if_neg same]

/-- The order in which bits are flipped does not matter. -/
theorem toggleAll_perm (m : Memory bank) {ks ls : List Nat} (reordered : ks.Perm ls) :
  m.toggleAll ks = m.toggleAll ls
  := by
  apply ext_get
  intro j inside
  rw [get_toggleAll _ _ inside, get_toggleAll _ _ inside, reordered.count_eq]

/-- A bit and the bit that is flipped from it make one. -/
theorem IsBits.add_get_toggle {m : Memory bank} (bits : m.IsBits) {k : Nat}
    (inside : k < bank.size) :
  m.get k + (m.toggle k).get k = 1
  := by
  rw [get_toggle _ _ inside, if_pos rfl, xor_one_eq (bits k)]
  apply Nat.add_sub_of_le (bits k)

end Memory

namespace Geometry

/-- The locations of pixels, each one given by its column and its row. -/
def places (g : Geometry) (pixels : List (Int × Int)) : List Nat :=
  pixels.map fun p => g.place p.1 p.2

end Geometry

namespace Screen

variable {g : Geometry}

/-- The screen after pixels are switched one after the other, each one given by its column and its
row. -/
def flipAll (fb : Screen g) (pixels : List (Int × Int)) : Except Fault (Screen g) :=
  pixels.foldlM (fun fb p => do return (← fb.flip p.1 p.2).2) fb

/-- A pixel that is switched once more is as it was, and this tells whether it was off before. -/
theorem flip_toggle (fb : Screen g) (w : 0 < g.width) (h : 0 < g.height) (bits : fb.vram.IsBits)
    (x y : Int) :
  { fb with vram := fb.vram.toggle (g.place x y) }.flip x y =
    .ok (fb.vram.get (g.place x y) == 0, fb)
  := by
  obtain ⟨-, inside⟩ := Geometry.place_spec w h x y
  have flipped := bits.add_get_toggle inside
  have told : ((fb.vram.toggle (g.place x y)).get (g.place x y) == 1) =
      (fb.vram.get (g.place x y) == 0) := by
    rw [Bool.eq_iff_iff, beq_iff_eq, beq_iff_eq]
    omega
  rw [flip_eq_ok _ w h (bits.toggle _), told, Memory.toggle_toggle]

/-- All pixels of a row are switched, one location after the other. -/
theorem flipAll_eq_ok (fb : Screen g) (w : 0 < g.width) (h : 0 < g.height)
    (bits : fb.vram.IsBits) (pixels : List (Int × Int)) :
  fb.flipAll pixels = .ok { fb with vram := fb.vram.toggleAll (g.places pixels) }
  := by
  induction pixels generalizing fb with
  | nil => rfl
  | cons p pixels ih =>
      rw [flipAll, List.foldlM_cons, flip_eq_ok fb w h bits]
      apply ih
      apply bits.toggle

/-- Take a screen with columns and rows after any calls. Each column and row has one location of the
video memory, which is also that of another column and row exactly if they agree around the edges.
To switch the pixel there is never refused: it flips the bit of this location, tells whether it was
one, and changes nothing else, and a second time takes it back. A row of pixels is switched in
whichever order to the same effect, which is to flip the locations that occur in it an odd number of
times. -/
theorem flip_commutes (w : 0 < g.width) (h : 0 < g.height) (calls : List ScreenCall) :
  let fb := (blank : Screen g).along calls
  (∀ x y, (g.place x y : Int) = y % g.height * g.width + x % g.width ∧
      (0 ≤ x % g.width ∧ x % g.width < g.width) ∧ (0 ≤ y % g.height ∧ y % g.height < g.height) ∧
      (g.place x y : Int) < g.width * g.height) ∧
    (∀ x y x' y', g.place x y = g.place x' y' ↔
      x % g.width = x' % g.width ∧ y % g.height = y' % g.height) ∧
    (∀ x y, ∃ fb', fb.flip x y = .ok (fb.vram.get (g.place x y) == 1, fb') ∧
      fb.vram.get (g.place x y) + fb'.vram.get (g.place x y) = 1 ∧
      (∀ k, k ≠ g.place x y → fb'.vram.get k = fb.vram.get k) ∧
      fb'.flip x y = .ok (fb.vram.get (g.place x y) == 0, fb)) ∧
    ∀ pixels, ∃ fb', fb.flipAll pixels = .ok fb' ∧
      (∀ k : Nat, (k : Int) < g.width * g.height → fb.vram.get k ≤ 1 ∧
        fb'.vram.get k =
          if (g.places pixels).count k % 2 = 1 then 1 - fb.vram.get k else fb.vram.get k) ∧
      ∀ pixels', pixels.Perm pixels' → fb.flipAll pixels' = .ok fb'
  := by
  intro fb
  have bits : fb.vram.IsBits := isBits_along w h calls
  have size := Geometry.size_bank w h
  constructor
  · intro x y
    obtain ⟨location, inside⟩ := Geometry.place_spec w h x y
    use location, ⟨Int.emod_nonneg x (Int.ne_of_gt w), Int.emod_lt_of_pos x w⟩,
      ⟨Int.emod_nonneg y (Int.ne_of_gt h), Int.emod_lt_of_pos y h⟩
    omega
  constructor
  · intro x y x' y'
    apply Geometry.place_eq_iff w h
  constructor
  · intro x y
    obtain ⟨-, inside⟩ := Geometry.place_spec w h x y
    use { fb with vram := fb.vram.toggle (g.place x y) }, flip_eq_ok fb w h bits x y,
      bits.add_get_toggle inside
    constructor
    · intro k other
      apply Memory.get_toggle_of_ne _ other
    · apply flip_toggle fb w h bits
  · intro pixels
    use { fb with vram := fb.vram.toggleAll (g.places pixels) }, flipAll_eq_ok fb w h bits pixels
    constructor
    · intro k inside
      use bits k
      rw [Memory.get_toggleAll _ _ (by omega), Memory.xor_one_eq (bits k)]
    · intro pixels' reordered
      have places : (g.places pixels).Perm (g.places pixels') := reordered.map _
      rw [flipAll_eq_ok fb w h bits, Memory.toggleAll_perm _ places]

/-- On a small display the first pixel is switched from beyond its corners, and in two rows of
pixels that differ in their order. -/
theorem flip_commutes_aroundCorners :
  let fb := (blank : Screen ⟨4, 3⟩).along [.flip 0 0, .requestRedraw, .flip 2 1, .draw]
  0 < (4 : Int) ∧ 0 < (3 : Int) ∧
    (∃ fb', fb.flip (-4) 6 = .ok (true, fb') ∧ fb'.vram.get 6 = 1 ∧
      fb'.flip (-4) 6 = .ok (false, fb)) ∧
    ∃ fb', fb.flipAll [(0, 0), (5, -2), (-4, 3)] = .ok fb' ∧
      fb.flipAll [(-4, 3), (0, 0), (5, -2)] = .ok fb' ∧ fb'.vram.get 0 = 1 ∧ fb'.vram.get 5 = 1
  := by
  intro fb
  have w : 0 < (4 : Int) := by decide
  have h : 0 < (3 : Int) := by decide
  obtain ⟨-, -, once, rows⟩ :=
    flip_commutes (g := ⟨4, 3⟩) w h [.flip 0 0, .requestRedraw, .flip 2 1, .draw]
  use w, h
  constructor
  · obtain ⟨fb', flipped, -, kept, again⟩ := once (-4) 6
    use fb', flipped
    rw [kept 6 (by decide)]
    exact ⟨by decide, again⟩
  · obtain ⟨fb', flipped, bits, orders⟩ := rows [(0, 0), (5, -2), (-4, 3)]
    use fb', flipped, orders _ (by decide)
    rw [(bits 0 (by decide)).2, (bits 5 (by decide)).2]
    decide

end Screen

end Chip8
