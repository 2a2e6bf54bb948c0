import Chip8.Proofs.Footprint

/-!
# Drawing sprites

A sprite switches the pixels that it covers, all at once: its columns and rows are taken around the
edges of the display, and since it is not larger than the display, it switches no pixel twice
(`Machine.Drawn`). The flag tells whether a covered pixel was on. Drawing the sprite again restores
the pixels, and the flag then tells whether a covered pixel was off at first (`Drawn.pixel_again`,
`Drawn.flag_again`).
-/

namespace Chip8

/-! ### Covered pixels -/

/-- All locations of the video memory belong to pixels of the display. -/
theorem exists_place_iff {P : Nat → Prop} :
  (∃ k < 2048, P k) ↔ ∃ px < 64, ∃ py < 32, P (py * 64 + px)
  := by
  constructor
  · rintro ⟨k, hk, holds⟩
    have place : k / 64 * 64 + k % 64 = k := by omega
    use k % 64, by omega, k / 64, by omega
    rw [place]
    exact holds
  · rintro ⟨px, hx, py, hy, holds⟩
    use py * 64 + px, by omega

theorem lt_of_mem_spritePlaces {ram : Memory .ram} {x y address n k : Nat}
    (member : k ∈ spritePlaces ram x y address (List.range n)) :
  k < 2048
  := by
  obtain ⟨r, -, c, -, -, rfl⟩ := mem_spritePlaces.mp member
  exact (Geometry.place_spec (g := .standard) (by decide) (by decide) _ _).2

/-- A sprite collides exactly if it covers a pixel that is on. -/
theorem collides_spritePlaces_iff (vram : Memory Geometry.standard.bank) (ram : Memory .ram)
    (x y address : Nat) {n : Nat} (few : n ≤ 32) :
  vram.collides (spritePlaces ram x y address (List.range n)) = true ↔
    ∃ px < 64, ∃ py < 32, vram.get (py * 64 + px) = 1 ∧
      spriteCovers ram x y address n px py = true
  := by
  let places := spritePlaces ram x y address (List.range n)
  calc vram.collides places = true
    _ ↔ ∃ k ∈ places, vram.get k = 1 :=
      Memory.collides_iff (nodup_spritePlaces ram x y address few)
    _ ↔ ∃ k < 2048, vram.get k = 1 ∧ k ∈ places := by
      constructor
      · rintro ⟨k, member, on⟩
        use k, lt_of_mem_spritePlaces member, on
      · rintro ⟨k, -, on, member⟩
        use k, member
    _ ↔ ∃ px < 64, ∃ py < 32, vram.get (py * 64 + px) = 1 ∧ py * 64 + px ∈ places :=
      exists_place_iff
    _ ↔ _ := by
      simp only [places]
      constructor
      · rintro ⟨px, hx, py, hy, on, member⟩
        use px, hx, py, hy, on
        apply (mem_spritePlaces_iff few hx hy).mp member
      · rintro ⟨px, hx, py, hy, on, covered⟩
        use px, hx, py, hy, on
        apply (mem_spritePlaces_iff few hx hy).mpr covered

namespace Machine

/-- The pixel in a column and a row of the display. -/
def pixel (m : Machine) (px py : Nat) : Nat := m.screen.vram.get (py * 64 + px)

/-- Whether the sprite that an opcode draws covers a pixel. -/
def covers (m : Machine) (op : Opcode) (px py : Nat) : Bool :=
  spriteCovers m.ram (m.registers.get op.x) (m.registers.get op.y) m.registers.i.value op.n px py

/-- The sprite that an opcode draws covers a pixel which holds a bit. -/
def Finds (m : Machine) (op : Opcode) (bit : Nat) : Prop :=
  ∃ px < 64, ∃ py < 32, m.pixel px py = bit ∧ m.covers op px py = true

instance (m : Machine) (op : Opcode) (bit : Nat) : Decidable (m.Finds op bit) :=
  inferInstanceAs (Decidable (∃ px < 64, ∃ py < 32, m.pixel px py = bit ∧ m.covers op px py = true))

/-! ### Drawing once -/

/-- The machine `m'` is left when the sprite of an opcode is drawn on `m`. -/
structure Drawn (m : Machine) (op : Opcode) (m' : Machine) : Prop where
  pixel : ∀ px < 64, ∀ py < 32, m'.pixel px py = m.pixel px py ^^^ (m.covers op px py).toNat
  flag : m'.registers.get Registers.flag = if m.Finds op 1 then 1 else 0
  data : ∀ y, y ≠ Registers.flag → m'.registers.get y = m.registers.get y
  redraw : m'.screen.redraw = true
  pc : m'.registers.pc.value = m.registers.pc.value + 2
  rest : m' =
    { m with
      screen := { m.screen with vram := m'.screen.vram, redraw := m'.screen.redraw }
      registers := { m.registers with data := m'.registers.data, pc := m'.registers.pc } }

/-- Drawing switches the pixels that the sprite covers. -/
theorem drawn_outcome (m : Machine) {op : Opcode} (few : op.n ≤ 32) :
  m.Drawn op (m.outcome .draw op)
  where
  pixel px hx py hy := by
    apply Eq.trans (get_drawn m.screen.vram m.ram _ _ _ few hx hy)
    rw [pixel, covers]
    cases spriteCovers m.ram (m.registers.get op.x) (m.registers.get op.y) m.registers.i.value
      op.n px py with
    | true => rfl
    | false => exact (Nat.xor_zero _).symm
  flag := by
    have key := collides_spritePlaces_iff m.screen.vram m.ram (m.registers.get op.x)
      (m.registers.get op.y) m.registers.i.value few
    apply Eq.trans ((m.withVram _).get_withData Registers.flag Registers.flag _)
    rw [if_pos rfl]
    apply Action.toNat_eq_ite key
  data y other := m.get_withSprite _ other
  redraw := rfl
  pc := rfl
  rest := rfl

/-! ### Drawing again -/

namespace Drawn

variable {m m' m'' : Machine} {op : Opcode} (first : m.Drawn op m')
  (hx : op.x ≠ Registers.flag) (hy : op.y ≠ Registers.flag)

include first hx hy

/-- A sprite which is not placed by the flag covers the same pixels when it is drawn again. -/
theorem covers_eq (px py : Nat) :
  m'.covers op px py = m.covers op px py
  := by
  have ram : m'.ram = m.ram := by rw [first.rest]
  have index : m'.registers.i = m.registers.i := by rw [first.rest]
  rw [covers, covers, ram, index, first.data _ hx, first.data _ hy]

/-- Drawing again restores the pixels. -/
theorem pixel_again (again : m'.Drawn op m'') {px py : Nat} (inX : px < 64) (inY : py < 32) :
  m''.pixel px py = m.pixel px py
  := by
  calc m''.pixel px py
    _ = m'.pixel px py ^^^ (m'.covers op px py).toNat := again.pixel px inX py inY
    _ = m.pixel px py ^^^ (m.covers op px py).toNat ^^^ (m.covers op px py).toNat := by
      rw [first.covers_eq hx hy, first.pixel px inX py inY]
    _ = m.pixel px py := by rw [Nat.xor_assoc, Nat.xor_self, Nat.xor_zero]

/-- The covered pixels that are on after drawing were off before it. -/
theorem finds_again (bits : m.screen.vram.IsBits) :
  m'.Finds op 1 ↔ m.Finds op 0
  := by
  have switched : ∀ px < 64, ∀ py < 32, m.covers op px py = true →
      (m'.pixel px py = 1 ↔ m.pixel px py = 0) := by
    intro px inX py inY covered
    have bit : m.pixel px py ≤ 1 := bits (py * 64 + px)
    rw [first.pixel px inX py inY, covered]
    rcases Nat.le_one_iff_eq_zero_or_eq_one.mp bit with off | on
    · rw [off]
      decide
    · rw [on]
      decide
  constructor
  · rintro ⟨px, inX, py, inY, on, covered⟩
    rw [first.covers_eq hx hy] at covered
    use px, inX, py, inY, (switched px inX py inY covered).mp on
  · rintro ⟨px, inX, py, inY, off, covered⟩
    use px, inX, py, inY, (switched px inX py inY covered).mpr off
    rw [first.covers_eq hx hy, covered]

/-- The flag tells after drawing again whether a covered pixel was off at first. -/
theorem flag_again (again : m'.Drawn op m'') (bits : m.screen.vram.IsBits) :
  m''.registers.get Registers.flag = if m.Finds op 0 then 1 else 0
  := again.flag.trans (if_congr (first.finds_again hx hy bits) rfl rfl)

end Drawn

end Machine

/-! ### Executing the instruction -/

namespace Action

open Machine

/-- A sprite within the memory is drawn, and the machine remains well-formed. -/
theorem execute_draw_drawn {m : Machine} (wf : m.WellFormed)
    (near : m.registers.pc.value ≤ 0xfffd) {op : Opcode} (nibble : op.n < 16)
    (inside : op.n = 0 ∨ m.registers.i.value + op.n - 1 ≤ 0xfff) :
  ∃ m', execute .draw op m = .ok () m' ∧ m'.WellFormed ∧ m.Drawn op m'
  := by
  have granted : m.refusal? .draw op = none := by
    apply granted_iff.mpr
    omega
  use m.outcome .draw op
  constructor
  · rw [execute_draw wf.vram wf.index (by omega), attempt_of_granted granted]
  constructor
  · have drawn := wf.withSprite (spritePlaces m.ram (m.registers.get op.x)
      (m.registers.get op.y) m.registers.i.value (List.range op.n))
    exact drawn.forward (Nat.add_le_add_right near 2)
  · apply m.drawn_outcome (by omega)

/-- Drawing a sprite succeeds and switches the pixels that it covers, and drawing it again restores
them. The flag tells whether a covered pixel was on, and after drawing again, whether one was off
at first. -/
theorem draw_switches {m : Machine} (wf : m.WellFormed) (near : m.registers.pc.value ≤ 0xfffd)
    (op : Opcode) (nibble : op.n < 16)
    (inside : op.n = 0 ∨ m.registers.i.value + op.n - 1 ≤ 0xfff) :
  (∃ m', execute .draw op m = .ok () m' ∧ m.Drawn op m') ∧
    (op.x ≠ Registers.flag → op.y ≠ Registers.flag → m.registers.pc.value + 4 ≤ 0xffff →
      ∃ m'', (do execute .draw op; execute .draw op : Action Unit) m = .ok () m'' ∧
        (∀ px < 64, ∀ py < 32, m''.pixel px py = m.pixel px py) ∧
        m''.registers.get Registers.flag = if m.Finds op 0 then 1 else 0)
  := by
  obtain ⟨m', drew, wf', drawn⟩ := execute_draw_drawn wf near nibble inside
  constructor
  · use m', drew
  · intro hx hy far
    have index : m'.registers.i = m.registers.i := by rw [drawn.rest]
    have near' : m'.registers.pc.value ≤ 0xfffd := by
      rw [drawn.pc]
      omega
    rw [← index] at inside
    obtain ⟨m'', drew', -, again⟩ := execute_draw_drawn wf' near' nibble inside
    use m''
    constructor
    · rw [bind_of_ok drew, drew']
    constructor
    · intro px inX py inY
      apply drawn.pixel_again hx hy again inX inY
    · apply drawn.flag_again hx hy again wf.vram

/-- A machine that was just booted, with the place of a sprite in two registers. -/
def cornered : Machine :=
  let op := Opcode.ofWord 0xd235
  (((Machine.initial (.ofList [])).booted []).withData op.x 62).withData op.y 30

/-- A glyph that is drawn in the last corner of the display appears at all edges, it hits nothing
on an empty screen, and drawing it again hits what was drawn. -/
theorem draw_switches_cornered :
  cornered.WellFormed ∧ cornered.registers.pc.value ≤ 0xfffd ∧ (Opcode.ofWord 0xd235).n < 16 ∧
    cornered.registers.i.value + (Opcode.ofWord 0xd235).n - 1 ≤ 0xfff ∧
    (∃ m', execute .draw (.ofWord 0xd235) cornered = .ok () m' ∧ m'.pixel 1 0 = 1 ∧
      m'.registers.get Registers.flag = 0) ∧
    ∃ m'', (do execute .draw (.ofWord 0xd235); execute .draw (.ofWord 0xd235) : Action Unit)
        cornered = .ok () m'' ∧ m''.pixel 1 0 = 0 ∧ m''.registers.get Registers.flag = 1
  := by
  have wf : cornered.WellFormed :=
    (((booted_inBounds _ _).wellFormed.withData _ (by decide)).withData _ (by decide))
  have near : cornered.registers.pc.value ≤ 0xfffd := by decide
  have nibble : (Opcode.ofWord 0xd235).n < 16 := by decide
  have inside : cornered.registers.i.value + (Opcode.ofWord 0xd235).n - 1 ≤ 0xfff := by decide
  have blank : ∀ px py, cornered.pixel px py = 0 := by
    intro px py
    apply Memory.get_zeros
  have covered : cornered.covers (.ofWord 0xd235) 1 0 = true := by decide +kernel
  have missed : ¬cornered.Finds (.ofWord 0xd235) 1 := by
    rintro ⟨px, -, py, -, on, -⟩
    rw [blank] at on
    cases on
  have lit : cornered.Finds (.ofWord 0xd235) 0 := ⟨1, by decide, 0, by decide, blank 1 0, covered⟩
  obtain ⟨⟨m', drew, drawn⟩, twice⟩ := draw_switches wf near (.ofWord 0xd235) nibble (.inr inside)
  obtain ⟨m'', redrew, restored, hit⟩ := twice (by decide) (by decide) (by decide)
  use wf, near, nibble, inside
  constructor
  · use m', drew
    rw [drawn.pixel 1 (by decide) 0 (by decide), drawn.flag, blank, covered, if_neg missed]
    exact ⟨rfl, rfl⟩
  · use m'', redrew
    rw [restored 1 (by decide) 0 (by decide), hit, blank, if_pos lit]
    exact ⟨rfl, rfl⟩

end Action

end Chip8
