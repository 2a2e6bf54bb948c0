import Chip8.Proofs.Footprint

/-!
# Blocks of registers

Registers are stored in a block of the memory that begins where the address register points, and
loaded from it. A transfer succeeds exactly if the address register can move behind the block, and
then it copies all of the block and nothing else (`Machine.BlockStored`, `Machine.BlockLoaded`), so
one transfer takes back what the other one did. The three digits of a register are stored in the
same manner (`Machine.DigitsStored`), but the address register stays where it is.
-/

namespace Chip8

namespace Machine

/-! ### Transfers -/

/-- The machine `m'` is left when the registers of `m` up to `x` are stored. -/
structure BlockStored (m : Machine) (x : Fin 16) (m' : Machine) : Prop where
  stored : ∀ y ≤ x, m'.ram.get (m.registers.i.value + y.val) = m.registers.get y
  ram : ∀ a, ¬(m.registers.i.value ≤ a ∧ a ≤ m.registers.i.value + x.val) →
    m'.ram.get a = m.ram.get a
  data : m'.registers.data = m.registers.data
  index : m'.registers.i.value = m.registers.i.value + x.val + 1

/-- The machine `m'` is left when the registers of `m` up to `x` are loaded. -/
structure BlockLoaded (m : Machine) (x : Fin 16) (m' : Machine) : Prop where
  loaded : ∀ y ≤ x, m'.registers.get y = m.ram.get (m.registers.i.value + y.val)
  data : ∀ y, x < y → m'.registers.get y = m.registers.get y
  ram : m'.ram = m.ram
  index : m'.registers.i.value = m.registers.i.value + x.val + 1

/-- The machine `m'` is left when the digits of the register `x` of `m` are stored. -/
structure DigitsStored (m : Machine) (x : Fin 16) (m' : Machine) : Prop where
  stored : ∃ hundreds tens ones, hundreds ≤ 9 ∧ tens ≤ 9 ∧ ones ≤ 9 ∧
    100 * hundreds + 10 * tens + ones = m.registers.get x ∧
    m'.ram.get m.registers.i.value = hundreds ∧ m'.ram.get (m.registers.i.value + 1) = tens ∧
    m'.ram.get (m.registers.i.value + 2) = ones
  ram : ∀ a, ¬(m.registers.i.value ≤ a ∧ a ≤ m.registers.i.value + 2) →
    m'.ram.get a = m.ram.get a
  index : m'.registers.i = m.registers.i

/-- The byte of a row that is stored within the memory. -/
theorem get_store_row (m : Memory .ram) {a k : Nat} {row : List Nat}
    (within : a + row.length ≤ 0x1000) (h : k < row.length) :
  (m.store a row).get (a + k) = row[k]
  := by
  have inside : a ≤ a + k ∧ a + k < a + row.length := by omega
  rw [Memory.get_store row m a (a + k) within, dif_pos inside]
  congr 1
  omega

section

variable (m : Machine) (op : Opcode)

theorem storeRegisters_granted_iff :
  m.refusal? .storeRegisters op = none ↔ m.registers.i.value + op.x.val ≤ 0xffe
  := by
  rw [refusal?, granted_iff]
  omega

theorem loadRegisters_granted_iff :
  m.refusal? .loadRegisters op = none ↔ m.registers.i.value + op.x.val ≤ 0xffe
  := by
  rw [refusal?, granted_iff]
  omega

theorem storeDigits_granted_iff :
  m.refusal? .storeDigits op = none ↔ m.registers.i.value ≤ 0xffd
  := by
  rw [refusal?, granted_iff]
  omega

/-- Registers that are stored get their bytes in the block. -/
theorem blockStored_outcome (room : m.registers.i.value + op.x.val ≤ 0xffe) :
  m.BlockStored op.x (m.outcome .storeRegisters op)
  where
  stored y below := by
    have short : y.val < (Action.registersTo op.x).length := by
      rw [Action.length_registersTo]
      exact Nat.lt_succ_of_le below
    have place : (Action.registersTo op.x)[y.val] = y := Fin.ext (Action.getElem_registersTo op.x _)
    have within : m.registers.i.value + ((Action.registersTo op.x).map m.registers.get).length ≤
        0x1000 := by
      rw [List.length_map, Action.length_registersTo]
      omega
    apply Eq.trans (get_store_row m.ram within (by rw [List.length_map]; exact short))
    rw [List.getElem_map, place]
  ram _ := m.outcome_ram .storeRegisters op ((m.storeRegisters_granted_iff op).mpr room)
  data := rfl
  index := rfl

/-- Registers that are loaded get the bytes of the block. -/
theorem blockLoaded_outcome :
  m.BlockLoaded op.x (m.outcome .loadRegisters op)
  where
  loaded y below :=
    (m.get_load_take (op.x.val + 1) m.registers.i.value y).trans (if_pos (Nat.lt_succ_of_le below))
  data _ above := m.outcome_data .loadRegisters op (Nat.not_le_of_gt above)
  ram := m.load_ram _ _
  index := rfl

/-- Digits that are stored make up the number of the register. -/
theorem digitsStored_outcome (byte : m.registers.get op.x ≤ 0xff)
    (room : m.registers.i.value ≤ 0xffd) :
  m.DigitsStored op.x (m.outcome .storeDigits op)
  where
  stored := by
    let n := m.registers.get op.x
    have within : m.registers.i.value + (digits n).length ≤ 0x1000 := by
      show m.registers.i.value + 3 ≤ 0x1000
      omega
    use n / 100, n / 10 % 10, n % 10
    refine ⟨by omega, by omega, by omega, by omega, ?_, ?_, ?_⟩
    · exact get_store_row m.ram within (show 0 < 3 by decide)
    · exact get_store_row m.ram within (show 1 < 3 by decide)
    · exact get_store_row m.ram within (show 2 < 3 by decide)
  ram _ := m.outcome_ram .storeDigits op ((m.storeDigits_granted_iff op).mpr room)
  index := rfl

end

/-! ### There and back -/

/-- The machine with other contents of the data registers and the address register. -/
def withRegisters (m : Machine) (data : Vector Nat 16) (i : Cell "I" 12) : Machine :=
  { m with registers := { m.registers with data := data, i := i } }

section

variable {m m' m'' : Machine} {x : Fin 16} (data : Vector Nat 16)

/-- Registers that were stored are loaded again, whatever they held in between. -/
theorem BlockStored.get_loaded (stored : m.BlockStored x m')
    (loaded : (m'.withRegisters data m.registers.i).BlockLoaded x m'') (y : Fin 16) :
  m''.registers.get y = if y ≤ x then m.registers.get y else data.get y
  := by
  by_cases below : y ≤ x
  · rw [if_pos below, loaded.loaded y below]
    exact stored.stored y below
  · rw [if_neg below, loaded.data y (Nat.lt_of_not_le below)]
    rfl

/-- A block that was loaded is stored again as it was. -/
theorem BlockLoaded.ram_stored (loaded : m.BlockLoaded x m')
    (stored : (m'.withRegisters m'.registers.data m.registers.i).BlockStored x m'') :
  m''.ram = m.ram
  := by
  apply Memory.ext_get
  intro a _
  by_cases inside : m.registers.i.value ≤ a ∧ a ≤ m.registers.i.value + x.val
  · have below : a - m.registers.i.value ≤ x.val := by omega
    let y : Fin 16 := ⟨a - m.registers.i.value, Nat.lt_of_le_of_lt below x.isLt⟩
    have place : m.registers.i.value + y.val = a := Nat.add_sub_of_le inside.1
    calc m''.ram.get a
      _ = m''.ram.get (m.registers.i.value + y.val) := by rw [place]
      _ = m'.registers.get y := stored.stored y below
      _ = m.ram.get (m.registers.i.value + y.val) := loaded.loaded y below
      _ = m.ram.get a := by rw [place]
  · calc m''.ram.get a
      _ = m'.ram.get a := stored.ram a inside
      _ = m.ram.get a := by rw [loaded.ram]

end

end Machine

/-! ### Executing transfers -/

namespace Action

open Machine

section

variable {m : Machine} (wf : m.WellFormed)

include wf

section

variable (near : m.registers.pc.value + 2 < 0x10000) (op : Opcode)

include near

theorem storeRegisters_eq_ok_iff {d : Machine} :
  execute .storeRegisters op m = .ok () d ↔
    m.registers.i.value + op.x.val ≤ 0xffe ∧ d = m.outcome .storeRegisters op
  := by
  rw [execute_storeRegisters wf.index wf.data near, attempt_eq_ok_iff, storeRegisters_granted_iff]

theorem loadRegisters_eq_ok_iff {d : Machine} :
  execute .loadRegisters op m = .ok () d ↔
    m.registers.i.value + op.x.val ≤ 0xffe ∧ d = m.outcome .loadRegisters op
  := by
  rw [execute_loadRegisters wf.index wf.ram near, attempt_eq_ok_iff, loadRegisters_granted_iff]

theorem storeDigits_eq_ok_iff {d : Machine} :
  execute .storeDigits op m = .ok () d ↔
    m.registers.i.value ≤ 0xffd ∧ d = m.outcome .storeDigits op
  := by
  rw [execute_storeDigits wf.index wf.data near, attempt_eq_ok_iff, storeDigits_granted_iff]

end

/-- A block that was stored can be loaded, whatever the registers hold. -/
theorem load_stored (near : m.registers.pc.value + 4 < 0x10000) (op : Opcode)
    (room : m.registers.i.value + op.x.val ≤ 0xffe) (data : Vector Nat 16) :
  let stored := (m.outcome .storeRegisters op).withRegisters data m.registers.i
  ∃ m', execute .loadRegisters op stored = .ok () m' ∧ stored.BlockLoaded op.x m'
  := by
  intro stored
  have bytes : ∀ k, stored.ram.get k ≤ 0xff :=
    (wf.withStored m.registers.i.value (wf.values_le (registersTo op.x))).ram
  have granted := (stored.loadRegisters_granted_iff op).mpr room
  use stored.outcome .loadRegisters op
  rw [execute_loadRegisters (m := stored) wf.index bytes near, attempt_of_granted granted]
  exact ⟨rfl, stored.blockLoaded_outcome op⟩

/-- A block that was loaded can be stored. -/
theorem store_loaded (near : m.registers.pc.value + 4 < 0x10000) (op : Opcode)
    (room : m.registers.i.value + op.x.val ≤ 0xffe) :
  let loaded := (m.outcome .loadRegisters op).withRegisters
    (m.outcome .loadRegisters op).registers.data m.registers.i
  ∃ m', execute .storeRegisters op loaded = .ok () m' ∧ loaded.BlockStored op.x m'
  := by
  intro loaded
  have bytes : ∀ y, loaded.registers.get y ≤ 0xff :=
    (wf.load (registersTo op.x) m.registers.i.value).data
  have pc : loaded.registers.pc.value = m.registers.pc.value + 2 :=
    congrArg (fun m => m.registers.pc.value + 2) (m.load_eq _ _)
  have granted := (loaded.storeRegisters_granted_iff op).mpr room
  use loaded.outcome .storeRegisters op
  rw [execute_storeRegisters (m := loaded) wf.index bytes (by omega), attempt_of_granted granted]
  exact ⟨rfl, loaded.blockStored_outcome op room⟩

/-- Registers are stored and loaded exactly if the address register can move behind their block,
and each of the two transfers takes back the other one. Digits are stored exactly if there is room
for them, and make up the number of their register. -/
theorem blocks_transferred (near : m.registers.pc.value ≤ 0xfffb) (op : Opcode) :
  ((∃ m', execute .storeRegisters op m = .ok () m') ↔
      m.registers.i.value + op.x.val ≤ 0xffe) ∧
    ((∃ m', execute .loadRegisters op m = .ok () m') ↔
      m.registers.i.value + op.x.val ≤ 0xffe) ∧
    (∀ m', execute .storeRegisters op m = .ok () m' →
      m.BlockStored op.x m' ∧
        ∀ data, ∃ m'',
          execute .loadRegisters op (m'.withRegisters data m.registers.i) = .ok () m'' ∧
            ∀ y, m''.registers.get y = if y ≤ op.x then m.registers.get y else data.get y) ∧
    (∀ m', execute .loadRegisters op m = .ok () m' →
      m.BlockLoaded op.x m' ∧
        ∃ m'', execute .storeRegisters op (m'.withRegisters m'.registers.data m.registers.i) =
            .ok () m'' ∧
          m''.ram = m.ram) ∧
    ((∃ m', execute .storeDigits op m = .ok () m') ↔ m.registers.i.value ≤ 0xffd) ∧
    ∀ m', execute .storeDigits op m = .ok () m' → m.DigitsStored op.x m'
  := by
  have near' : m.registers.pc.value + 2 < 0x10000 := by omega
  have near'' : m.registers.pc.value + 4 < 0x10000 := by omega
  simp only [storeRegisters_eq_ok_iff wf near', loadRegisters_eq_ok_iff wf near',
    storeDigits_eq_ok_iff wf near', exists_and_left, exists_eq, and_true, true_and]
  constructor
  · rintro m' ⟨room, rfl⟩
    have stored := m.blockStored_outcome op room
    use stored
    intro data
    obtain ⟨m'', executed, loaded⟩ := load_stored wf near'' op room data
    use m'', executed
    apply stored.get_loaded data loaded
  constructor
  · rintro m' ⟨room, rfl⟩
    have loaded := m.blockLoaded_outcome op
    use loaded
    obtain ⟨m'', executed, stored⟩ := store_loaded wf near'' op room
    use m'', executed
    apply loaded.ram_stored stored
  · rintro m' ⟨room, rfl⟩
    apply m.digitsStored_outcome op (wf.data op.x) room

end

/-- A machine that was just booted, with the address register before the end of the memory. -/
def atEnd : Machine :=
  (((Machine.initial (.ofList [])).booted []).withIndex 0xffc).withData (Opcode.ofWord 0xf255).x 205

/-- Three registers are transferred to the locations before the last one, four registers are not,
although there is a location for each of them, and three digits are stored. -/
theorem blocks_transferred_atEnd :
  atEnd.WellFormed ∧ atEnd.registers.pc.value ≤ 0xfffb ∧
    (∃ m' m'', execute .storeRegisters (.ofWord 0xf255) atEnd = .ok () m' ∧
      m'.ram.get 0xffe = 205 ∧
      execute .loadRegisters (.ofWord 0xf255)
          (m'.withRegisters (Vector.replicate 16 7) atEnd.registers.i) = .ok () m'' ∧
      m''.registers.get 2 = 205 ∧ m''.registers.get 3 = 7) ∧
    (¬∃ m', execute .storeRegisters (.ofWord 0xf355) atEnd = .ok () m') ∧
    ∃ m', execute .storeDigits (.ofWord 0xf233) atEnd = .ok () m' ∧
      m'.ram.get 0xffc = 2 ∧ m'.ram.get 0xffd = 0 ∧ m'.ram.get 0xffe = 5
  := by
  have wf : atEnd.WellFormed :=
    ((booted_inBounds _ _).wellFormed.withIndex (by decide)).withData _ (by decide)
  have near : atEnd.registers.pc.value ≤ 0xfffb := by decide
  obtain ⟨stores, -, stored, -⟩ := blocks_transferred wf near (.ofWord 0xf255)
  obtain ⟨storesMore, -⟩ := blocks_transferred wf near (.ofWord 0xf355)
  obtain ⟨-, -, -, -, storesDigits, digits⟩ := blocks_transferred wf near (.ofWord 0xf233)
  use wf, near
  constructor
  · obtain ⟨m', executed⟩ := stores.mpr (by decide)
    obtain ⟨block, back⟩ := stored m' executed
    obtain ⟨m'', reloaded, held⟩ := back (Vector.replicate 16 7)
    use m', m'', executed, block.stored 2 (by decide), reloaded, held 2, held 3
  constructor
  · intro more
    exact absurd (storesMore.mp more) (by decide)
  · obtain ⟨m', executed⟩ := storesDigits.mpr (by decide)
    obtain ⟨h, t, o, small, small', small'', number, first, second, third⟩ :=
      (digits m' executed).stored
    have held : atEnd.registers.get (Opcode.ofWord 0xf233).x = 205 := by decide +kernel
    rw [held] at number
    use m', executed
    constructor
    · apply first.trans (by omega)
    constructor
    · apply second.trans (by omega)
    · apply third.trans (by omega)

end Action

end Chip8
