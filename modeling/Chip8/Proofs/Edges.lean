import Chip8.Proofs.Pixels
import Mathlib.Data.List.Induction

/-!
# Looking at pixels

A pixel that is switched is taken around the edges of the display. A pixel that is looked at is not:
its location is computed from the column and the row as they are, and only has to be one of the
video memory, so a column past an edge is looked at in another row. What is looked at is what is
switched exactly if the column is past the edge by whole displays (`Geometry.offset_eq_place_iff`).
-/

namespace Chip8

/-! ### Locations with and without edges -/

namespace Geometry

variable {g : Geometry}

/-- The location that a column and a row have without regard to the edges. -/
def offset (g : Geometry) (x y : Int) : Int := y * g.width + x

/-- Two pixels have the same location exactly if they agree around the edges. -/
theorem place_eq_iff (w : 0 < g.width) (h : 0 < g.height) {x y x' y' : Int} :
  g.place x y = g.place x' y' ↔ x % g.width = x' % g.width ∧ y % g.height = y' % g.height
  := by
  constructor
  · intro same
    have key : y % g.height * g.width + x % g.width = y' % g.height * g.width + x' % g.width := by
      rw [← (place_spec w h x y).1, ← (place_spec w h x' y').1, same]
    have column : x % g.width = x' % g.width := by
      have key := congrArg (· % g.width) key
      simpa only [Int.mul_add_emod_self_right, Int.emod_emod] using key
    constructor
    · exact column
    · have row : y % g.height * g.width = y' % g.height * g.width := by omega
      exact Int.eq_of_mul_eq_mul_right (Int.ne_of_gt w) row
  · rintro ⟨column, row⟩
    rw [place, place, column, row]

/-- A location of the video memory is that of a pixel in a row of the display. -/
theorem offset_eq_place (w : 0 < g.width) (h : 0 < g.height) {x y : Int}
    (inside : 0 ≤ g.offset x y ∧ g.offset x y < g.pixels) :
  g.offset x y = g.place x (y + x / g.width)
  := by
  have split : g.offset x y = (y + x / g.width) * g.width + x % g.width := by
    rw [offset, Int.add_mul, Int.add_assoc, Int.mul_comm (x / _), Int.mul_ediv_add_emod]
  have column := Int.emod_nonneg x (Int.ne_of_gt w)
  have column' := Int.emod_lt_of_pos x w
  rw [split, pixels] at inside
  have first : 0 ≤ y + x / g.width := by
    by_contra above
    have key : (y + x / g.width) * g.width ≤ -1 * g.width :=
      Int.mul_le_mul_of_nonneg_right (by omega) (Int.le_of_lt w)
    omega
  have last : y + x / g.width < g.height := by
    by_contra below
    have key : g.height * g.width ≤ (y + x / g.width) * g.width :=
      Int.mul_le_mul_of_nonneg_right (by omega) (Int.le_of_lt w)
    rw [Int.mul_comm] at key
    omega
  rw [(place_spec w h _ _).1, split, Int.emod_eq_of_lt first last]

/-- A location of the video memory is the one around the edges exactly if the column is past the edge
by whole displays. -/
theorem offset_eq_place_iff (w : 0 < g.width) (h : 0 < g.height) {x y : Int}
    (inside : 0 ≤ g.offset x y ∧ g.offset x y < g.pixels) :
  g.offset x y = g.place x y ↔ g.height ∣ x / g.width
  := by
  have distance : y + x / g.width - y = x / g.width := by omega
  rw [offset_eq_place w h inside, Int.natCast_inj, place_eq_iff w h, eq_self, true_and,
    Int.emod_eq_emod_iff_emod_sub_eq_zero, distance, Int.dvd_iff_emod_eq_zero]

end Geometry

/-! ### Calls on a screen -/

/-- A call on a screen. -/
inductive ScreenCall where
  /-- Switches a pixel. -/
  | flip (x y : Int)
  /-- Looks at a pixel. -/
  | pixel (x y : Int)
  /-- Looks at all pixels. -/
  | snapshot
  | clear
  | requestRedraw
  /-- Publishes the pixels, if a redraw is scheduled. -/
  | draw
  /-- Takes the newest frame that was published. -/
  | takeFrame
deriving DecidableEq

namespace Screen

variable {g : Geometry} {fb : Screen g}

/-- The screen after a call; one that is refused leaves it as it was. -/
def after (fb : Screen g) : ScreenCall → Screen g
  | .flip x y =>
      match fb.flip x y with
      | .ok (_, fb') => fb'
      | .error _ => fb
  | .pixel _ _ => fb
  | .snapshot => fb
  | .clear => fb.clear
  | .requestRedraw => fb.requestRedraw
  | .draw =>
      match fb.draw with
      | .ok (_, fb') => fb'
      | .error _ => fb
  | .takeFrame => fb.takeFrame.2

/-- The screen after calls, the first one first. -/
def along (fb : Screen g) (calls : List ScreenCall) : Screen g := calls.foldl after fb

/-- Publishing leaves the pixels as they are. -/
theorem vram_draw {drawn : Bool} {fb' : Screen g} (h : fb.draw = .ok (drawn, fb')) :
  fb'.vram = fb.vram
  := by
  rw [draw] at h
  split at h
  · cases shot : fb.snapshot with
    | error e =>
        rw [shot] at h
        cases h
    | ok frame =>
        rw [shot] at h
        cases h
        rfl
  · cases h
    rfl

theorem isBits_after (w : 0 < g.width) (h : 0 < g.height) (bits : fb.vram.IsBits)
    (call : ScreenCall) :
  (fb.after call).vram.IsBits
  := by
  cases call with
  | flip x y =>
      rw [after, flip_eq_ok fb w h bits]
      apply bits.toggle
  | clear =>
      intro k
      rw [after, clear, Memory.get_zeros]
      apply Nat.zero_le
  | draw =>
      rw [after]
      split
      · next drawn =>
          rw [vram_draw drawn]
          exact bits
      · exact bits
  | pixel | snapshot | requestRedraw | takeFrame => exact bits

/-- Whatever calls there were, each pixel is on or off. -/
theorem isBits_along (w : 0 < g.width) (h : 0 < g.height) (calls : List ScreenCall) :
  ((blank : Screen g).along calls).vram.IsBits
  := by
  induction calls using List.reverseRecOn with
  | nil =>
      intro k
      rw [along, List.foldl_nil, blank, Memory.get_zeros]
      apply Nat.zero_le
  | append_singleton calls call ih =>
      rw [along, List.foldl_append, ← along]
      apply isBits_after w h ih

/-! ### Looking and switching -/

/-- A pixel can be looked at exactly if its location, taken without regard to the edges, is one of
the video memory. -/
theorem pixel_eq_ok_iff (fb : Screen g) (w : 0 < g.width) (h : 0 < g.height) {x y : Int} {v : Nat} :
  fb.pixel x y = .ok v ↔
    (0 ≤ g.offset x y ∧ g.offset x y < g.pixels) ∧ v = fb.vram.get (g.offset x y).toNat
  := by
  have size : (g.bank.size : Int) = g.pixels := Geometry.size_bank w h
  rw [pixel, ← Geometry.offset, ← size]
  by_cases inside : 0 ≤ g.offset x y ∧ g.offset x y < g.bank.size
  · obtain ⟨k, here⟩ := Int.eq_ofNat_of_zero_le inside.1
    rw [here] at inside ⊢
    rw [Memory.read_one fb.vram Int.one_nonneg (Int.ofNat_lt.mp inside.2), Except.ok.injEq,
      Int.toNat_natCast]
    exact ⟨fun same => ⟨inside, same.symm⟩, fun same => same.2.symm⟩
  · rw [Memory.read, Memory.readBytes, Memory.checkAddress_of_outside inside]
    constructor
    · rintro ⟨⟩
    · rintro ⟨here, -⟩
      exact absurd here inside

/-- Take a screen with columns and rows after any calls, and a pixel that can be looked at, whichever
column and row it is asked for in. It can be switched, and looked at again. If its column is past the
edges by whole displays, as it is for every column of the display, then switching it tells whether it
was on and changes what is looked at. Otherwise another pixel is switched, and what is looked at
stays. -/
theorem pixel_switched (w : 0 < g.width) (h : 0 < g.height) (calls : List ScreenCall) {x y : Int}
    {v : Nat} (seen : ((blank : Screen g).along calls).pixel x y = .ok v) :
  let fb := (blank : Screen g).along calls
  ∃ hit fb' v', fb.flip x y = .ok (hit, fb') ∧ fb'.pixel x y = .ok v' ∧ v ≤ 1 ∧
    (0 ≤ x ∧ x < g.width → g.height ∣ x / g.width) ∧
    (g.height ∣ x / g.width → hit = (v == 1) ∧ v' = 1 - v) ∧
    (¬g.height ∣ x / g.width → v' = v)
  := by
  intro fb
  have bits : fb.vram.IsBits := isBits_along w h calls
  obtain ⟨inside, rfl⟩ := (pixel_eq_ok_iff fb w h).mp seen
  have same := Geometry.offset_eq_place_iff w h inside
  obtain ⟨k, here⟩ := Int.eq_ofNat_of_zero_le inside.1
  have small : k < g.bank.size := by
    have size : (g.bank.size : Int) = g.pixels :=
      Int.toNat_of_nonneg (Int.mul_nonneg (Int.le_of_lt w) (Int.le_of_lt h))
    omega
  rw [here, Int.natCast_inj] at same
  rw [here, Int.toNat_natCast]
  use fb.vram.get (g.place x y) == 1, { fb with vram := fb.vram.toggle (g.place x y) },
    (fb.vram.toggle (g.place x y)).get k, flip_eq_ok fb w h bits x y
  refine ⟨?_, bits k, ?_, ?_, ?_⟩
  · rw [pixel_eq_ok_iff _ w h, here]
    exact ⟨here ▸ inside, rfl⟩
  · rintro ⟨nonneg, before⟩
    rw [Int.ediv_eq_zero_of_lt nonneg before]
    apply Int.dvd_zero
  · intro whole
    rw [← same.mpr whole]
    use rfl
    rw [Memory.get_toggle _ _ small, if_pos rfl, Memory.xor_one_eq (bits k)]
  · intro broken
    have other : k ≠ g.place x y := fun there => broken (same.mp there)
    apply Memory.get_toggle_of_ne _ other

/-- The first pixel of a small display is looked at three displays to the right and one above. -/
theorem pixel_switched_afar :
  let fb := (blank : Screen ⟨4, 3⟩).along [.flip 0 0]
  0 < (4 : Int) ∧ 0 < (3 : Int) ∧ fb.pixel 12 (-3) = .ok 1 ∧
    ∃ fb', fb.flip 12 (-3) = .ok (true, fb') ∧ fb'.pixel 12 (-3) = .ok 0
  := by
  intro fb
  have seen : fb.pixel 12 (-3) = .ok 1 := by decide
  obtain ⟨hit, fb', v', flipped, looked, -, -, met, -⟩ :=
    pixel_switched (by decide) (by decide) [.flip 0 0] seen
  obtain ⟨rfl, rfl⟩ := met (by decide)
  exact ⟨by decide, by decide, seen, fb', flipped, looked⟩

/-- Behind the right edge of a small display the first pixel of the next row is looked at, and the
first one of the same row is switched. -/
theorem pixel_not_switched :
  let fb := (blank : Screen ⟨4, 3⟩)
  fb.pixel 4 0 = .ok 0 ∧ ∃ fb', fb.flip 4 0 = .ok (false, fb') ∧ fb'.pixel 4 0 ≠ .ok (1 - 0)
  := by
  intro fb
  use by decide, fb.after (.flip 4 0), by decide
  decide

end Screen

end Chip8
