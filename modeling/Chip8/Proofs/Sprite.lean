import Chip8.Proofs.Action
import Chip8.Proofs.Pixels
import Mathlib.Data.List.Nodup

/-!
# Sprites

Drawing a sprite flips a row of locations (`spritePlaces`): those of the pixels which the bytes of
its rows select. As long as the rows lie within the memory, all of them are flipped
(`drawRows_eq_ok`), and the first row beyond it is refused after the earlier ones were drawn
(`drawRows_eq_error`). No location occurs twice, so a pixel is switched exactly if the sprite
covers it (`get_drawn`).
-/

namespace Chip8

/-- The location of the pixel in a column and a row of the machine's display. -/
def pixelPlace (x y : Int) : Nat := Geometry.standard.place x y

theorem pixelPlace_eq (x y : Int) :
  (pixelPlace x y : Int) = y % 32 * 64 + x % 64
  := (Geometry.place_spec (g := .standard) (by decide) (by decide) x y).1

/-- The locations of the pixels which a byte selects in columns of a row of a sprite. -/
def rowPlaces (x y byte : Nat) (columns : List Nat) : List Nat :=
  (columns.filter fun c => byte.testBit (7 - c)).map fun c => pixelPlace (x + c : Nat) y

/-- The locations of the pixels of given rows of the sprite at an address. -/
def spritePlaces (ram : Memory .ram) (x y address : Nat) (rows : List Nat) : List Nat :=
  rows.flatMap fun r => rowPlaces x (y + r) (ram.get (address + r)) (List.range 8)

/-- Whether the sprite of `n` rows at an address, drawn in a column and a row, covers a pixel. -/
def spriteCovers (ram : Memory .ram) (x y address n : Nat) (px py : Nat) : Bool :=
  let column := (((px : Int) - x) % 64).toNat
  let row := (((py : Int) - y) % 32).toNat
  column < 8 && row < n && (ram.get (address + row)).testBit (7 - column)

/-- The machine with the pixels at given locations switched, the flag telling whether one of them
was on, and a redraw scheduled. -/
def Machine.withSprite (m : Machine) (places : List Nat) : Machine :=
  let m' := (m.withVram (m.screen.vram.toggleAll places)).withData Registers.flag
    (m.screen.vram.collides places).toNat
  { m' with screen := m'.screen.requestRedraw }

namespace Action

/-! ### Drawing -/

theorem flipPixel_eq_ok (m : Machine) (bits : m.screen.vram.IsBits) (x y : Int) :
  flipPixel x y m =
    .ok (m.screen.vram.get (pixelPlace x y) == 1)
      (m.withVram (m.screen.vram.toggle (pixelPlace x y)))
  := by
  rw [flipPixel, exchange, Screen.flip_eq_ok m.screen (by decide) (by decide) bits]
  rfl

/-- A row of a sprite flips the locations of the pixels that its byte selects. -/
theorem drawRow_eq_ok (x y byte : Nat) (columns : List Nat) (m : Machine)
    (bits : m.screen.vram.IsBits) :
  drawRow x y byte columns m =
    .ok (m.screen.vram.collides (rowPlaces x y byte columns))
      (m.withVram (m.screen.vram.toggleAll (rowPlaces x y byte columns)))
  := by
  induction columns generalizing m with
  | nil => rfl
  | cons c columns ih =>
      rw [drawRow]
      by_cases selected : byte.testBit (7 - c) = true
      · have places : rowPlaces x y byte (c :: columns) =
            pixelPlace (x + c : Nat) y :: rowPlaces x y byte columns := by
          rw [rowPlaces, List.filter_cons, if_pos selected]
          rfl
        have flipped := flipPixel_eq_ok m bits (x + c : Nat) y
        have rest := ih (m.withVram (m.screen.vram.toggle (pixelPlace (x + c : Nat) y)))
          (bits.toggle _)
        rw [if_pos selected, ← Int.natCast_add, bind_of_ok flipped]
        dsimp only
        rw [bind_of_ok rest, places]
        rfl
      · have places : rowPlaces x y byte (c :: columns) = rowPlaces x y byte columns := by
          rw [rowPlaces, List.filter_cons, if_neg selected]
          rfl
        have kept : (pure false : Action Bool) m = .ok false m := rfl
        rw [if_neg selected, bind_of_ok kept]
        dsimp only
        rw [bind_of_ok (ih m bits), places]
        rfl

theorem spritePlaces_cons (ram : Memory .ram) (x y address r : Nat) (rows : List Nat) :
  spritePlaces ram x y address (r :: rows) =
    rowPlaces x (y + r) (ram.get (address + r)) (List.range 8) ++ spritePlaces ram x y address rows
  := List.flatMap_cons

/-- Rows within the memory are drawn. -/
theorem drawRows_eq_ok (x y address : Nat) (rows : List Nat) (m : Machine)
    (bits : m.screen.vram.IsBits) (inside : ∀ r ∈ rows, address + r < 0x1000) :
  drawRows x y address rows m =
    .ok (m.screen.vram.collides (spritePlaces m.ram x y address rows))
      (m.withVram (m.screen.vram.toggleAll (spritePlaces m.ram x y address rows)))
  := by
  induction rows generalizing m with
  | nil => rfl
  | cons r rows ih =>
      obtain ⟨first, rest⟩ := List.forall_mem_cons.mp inside
      rw [drawRows, ← Int.natCast_add, bind_of_ok (byteAt_eq_ok m first),
        bind_of_ok (drawRow_eq_ok x (y + r) _ _ m bits),
        bind_of_ok (ih _ (bits.toggleAll _) rest), spritePlaces_cons, Memory.collides_append,
        Memory.toggleAll_append]
      rfl

/-- The first row beyond the memory is refused, after the rows before it were drawn. -/
theorem drawRows_eq_error (x y address : Nat) (rows : List Nat) {r : Nat} (rest : List Nat)
    (m : Machine) (bits : m.screen.vram.IsBits) (inside : ∀ r ∈ rows, address + r < 0x1000)
    (outside : 0x1000 ≤ address + r) :
  drawRows x y address (rows ++ r :: rest) m =
    .error (.badAddress "RAM" (address + r : Nat))
      (m.withVram (m.screen.vram.toggleAll (spritePlaces m.ram x y address rows)))
  := by
  induction rows generalizing m with
  | nil =>
      rw [List.nil_append, drawRows, ← Int.natCast_add,
        bind_of_error (byteAt_eq_error m outside)]
      rfl
  | cons s rows ih =>
      obtain ⟨first, others⟩ := List.forall_mem_cons.mp inside
      rw [List.cons_append, drawRows, ← Int.natCast_add, bind_of_ok (byteAt_eq_ok m first),
        bind_of_ok (drawRow_eq_ok x (y + s) _ _ m bits),
        bind_of_error (ih _ (bits.toggleAll _) others), spritePlaces_cons,
        Memory.toggleAll_append]
      rfl

/-! ### Whole sprites -/

/-- A range that reaches a number is what comes before it, the number, and a rest. -/
theorem exists_range_eq {k n : Nat} (h : k < n) :
  ∃ rest, List.range n = List.range k ++ k :: rest
  := by
  obtain ⟨j, rfl⟩ : ∃ j, n = k + (j + 1) := ⟨n - k - 1, by omega⟩
  use (List.range j).map fun i => k + (i + 1)
  rw [List.range_add, List.range_succ_eq_map, List.map_cons, List.map_map]
  rfl

section

variable {m : Machine} (vram : m.screen.vram.IsBits)

include vram

/-- A sprite within the memory is drawn. -/
theorem drawSprite_eq_ok (x y : Fin 16) {n : Nat} (short : m.registers.i.value + n ≤ 0x1000) :
  drawSprite x y n m =
    .ok () (m.withSprite (spritePlaces m.ram (m.registers.get x) (m.registers.get y)
      m.registers.i.value (List.range n)))
  := by
  have inside : ∀ r ∈ List.range n, m.registers.i.value + r < 0x1000 := by
    intro r hr
    have key := List.mem_range.mp hr
    omega
  let cleared := m.withData Registers.flag 0
  have begun : setFlag false m = .ok () cleared := setFlag_eq_ok false m
  have drawn := drawRows_eq_ok (m.registers.get x) (m.registers.get y) m.registers.i.value _
    cleared vram inside
  rw [drawSprite, bind_of_ok (register_apply x m), bind_of_ok (register_apply y m),
    bind_of_ok (index_apply m), bind_of_ok begun, bind_of_ok drawn,
    bind_of_ok (setFlag_eq_ok _ _), modify_apply, Machine.withSprite,
    ← Machine.withData_withData (m.withVram _) Registers.flag 0]
  rfl

/-- The flag is cleared before a sprite is drawn, and remains so if one of its rows lies beyond
the memory. -/
theorem drawSprite_eq_error (x y : Fin 16) {n : Nat} (index : m.registers.i.value ≤ 0xfff)
    (long : 0x1000 < m.registers.i.value + n) :
  drawSprite x y n m =
    .error (.badAddress "RAM" 0x1000)
      ((m.withData Registers.flag 0).withVram (m.screen.vram.toggleAll
        (spritePlaces m.ram (m.registers.get x) (m.registers.get y) m.registers.i.value
          (List.range (0x1000 - m.registers.i.value)))))
  := by
  have inside : ∀ r ∈ List.range (0x1000 - m.registers.i.value),
      m.registers.i.value + r < 0x1000 := by
    intro r hr
    have key := List.mem_range.mp hr
    omega
  obtain ⟨rest, rows⟩ := exists_range_eq (k := 0x1000 - m.registers.i.value) (n := n) (by omega)
  let cleared := m.withData Registers.flag 0
  have begun : setFlag false m = .ok () cleared := setFlag_eq_ok false m
  have refused := drawRows_eq_error (r := 0x1000 - m.registers.i.value) (m.registers.get x)
    (m.registers.get y) m.registers.i.value _ rest cleared vram inside (by omega)
  have place : m.registers.i.value + (0x1000 - m.registers.i.value) = 0x1000 := by omega
  rw [← rows, place] at refused
  rw [drawSprite, bind_of_ok (register_apply x m), bind_of_ok (register_apply y m),
    bind_of_ok (index_apply m), bind_of_ok begun, bind_of_error refused]
  rfl

end

end Action

/-! ### Covered pixels -/

theorem mem_rowPlaces {x y byte : Nat} {place : Nat} :
  place ∈ rowPlaces x y byte (List.range 8) ↔
    ∃ c < 8, byte.testBit (7 - c) = true ∧ pixelPlace (x + c : Nat) y = place
  := by
  simp only [rowPlaces, List.mem_map, List.mem_filter, List.mem_range, and_assoc]

theorem mem_spritePlaces {ram : Memory .ram} {x y address n place : Nat} :
  place ∈ spritePlaces ram x y address (List.range n) ↔
    ∃ r < n, ∃ c < 8, (ram.get (address + r)).testBit (7 - c) = true ∧
      pixelPlace (x + c : Nat) (y + r : Nat) = place
  := by
  simp only [spritePlaces, List.mem_flatMap, List.mem_range, mem_rowPlaces]

/-- A sprite has no pixel twice, since it is not larger than the display. -/
theorem nodup_spritePlaces (ram : Memory .ram) (x y address : Nat) {n : Nat} (few : n ≤ 32) :
  (spritePlaces ram x y address (List.range n)).Nodup
  := by
  -- Eight columns are fewer than those of the display, and so are thirty-two rows at most.
  rw [spritePlaces, List.nodup_flatMap]
  constructor
  · intro r _
    rw [rowPlaces]
    apply List.Nodup.map_on
    · intro c hc d hd same
      have hc' := List.mem_range.mp (List.mem_of_mem_filter hc)
      have hd' := List.mem_range.mp (List.mem_of_mem_filter hd)
      have left := pixelPlace_eq (x + c : Nat) (y + r : Nat)
      have right := pixelPlace_eq (x + d : Nat) (y + r : Nat)
      omega
    · apply List.Nodup.filter
      apply List.nodup_range
  · apply List.Pairwise.imp_of_mem _ List.nodup_range
    intro r s hr hs differ
    apply List.disjoint_left.mpr
    intro place first second
    obtain ⟨c, hc, -, left⟩ := mem_rowPlaces.mp first
    obtain ⟨d, hd, -, right⟩ := mem_rowPlaces.mp second
    have left' := pixelPlace_eq (x + c : Nat) (y + r : Nat)
    have right' := pixelPlace_eq (x + d : Nat) (y + s : Nat)
    have hr' := List.mem_range.mp hr
    have hs' := List.mem_range.mp hs
    omega

/-- The locations of a sprite are those of the pixels it covers. -/
theorem mem_spritePlaces_iff {ram : Memory .ram} {x y address n px py : Nat} (few : n ≤ 32)
    (hx : px < 64) (hy : py < 32) :
  py * 64 + px ∈ spritePlaces ram x y address (List.range n) ↔
    spriteCovers ram x y address n px py = true
  := by
  rw [mem_spritePlaces, spriteCovers]
  simp only [Bool.and_eq_true, decide_eq_true_eq]
  constructor
  · rintro ⟨r, hr, c, hc, selected, same⟩
    have key := pixelPlace_eq (x + c : Nat) (y + r : Nat)
    have column : (((px : Int) - x) % 64).toNat = c := by omega
    have row : (((py : Int) - y) % 32).toNat = r := by omega
    rw [column, row]
    exact ⟨⟨hc, hr⟩, selected⟩
  · rintro ⟨⟨hc, hr⟩, selected⟩
    use (((py : Int) - y) % 32).toNat, hr, (((px : Int) - x) % 64).toNat, hc, selected
    have key := pixelPlace_eq (x + (((px : Int) - x) % 64).toNat : Nat)
      (y + (((py : Int) - y) % 32).toNat : Nat)
    omega

/-- Drawing a sprite switches exactly the pixels that it covers. -/
theorem get_drawn (vram : Memory Geometry.standard.bank) (ram : Memory .ram) (x y address : Nat)
    {n px py : Nat} (few : n ≤ 32) (hx : px < 64) (hy : py < 32) :
  (vram.toggleAll (spritePlaces ram x y address (List.range n))).get (py * 64 + px) =
    if spriteCovers ram x y address n px py then vram.get (py * 64 + px) ^^^ 1
    else vram.get (py * 64 + px)
  := by
  have inside : py * 64 + px < Geometry.standard.bank.size := by
    show py * 64 + px < 2048
    omega
  have nodup := nodup_spritePlaces ram x y address few
  rw [vram.get_toggleAll _ inside]
  by_cases covered : spriteCovers ram x y address n px py = true
  · have member := (mem_spritePlaces_iff few hx hy).mpr covered
    rw [if_pos covered, List.count_eq_one_of_mem nodup member, if_pos rfl]
  · have other : py * 64 + px ∉ spritePlaces ram x y address (List.range n) := by
      intro member
      apply covered ((mem_spritePlaces_iff few hx hy).mp member)
    rw [if_neg covered, List.count_eq_zero_of_not_mem other, if_neg (by decide)]

end Chip8
