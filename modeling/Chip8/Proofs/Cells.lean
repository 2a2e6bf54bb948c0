import Chip8.Cell
import Mathlib.Tactic.Use

/-!
# Calls on cells

A call on a cell asks for one value to be stored in it (`Cell.asked`), and is refused exactly if
this value is outside the range of the cell's width (`fit_cases`). So a cell that was built holds a
number of its width after any calls. A call checks before it stores, so one that is refused leaves
the cell as it was, and the calls that are not refused lead to the same cell on their own
(`Cell.forM_accepted`).
-/

namespace Chip8

/-! ### The check of the width -/

section

variable (name : String) (width : Nat) (value : Int)

/-- A value is stored if it is in the range of the width. Otherwise it is refused, with the width in
the fault if this can be written. -/
theorem fit_cases :
  ((0 ≤ value ∧ value < (twoPow width : Int)) ∧ fit name width value = .ok value.toNat) ∨
    (¬(0 ≤ value ∧ value < (twoPow width : Int)) ∧
      ((width < Nat.pow 10 Numeral.maxDigits ∧
          fit name width value = .error (.tooWide name width value)) ∨
        (Nat.pow 10 Numeral.maxDigits ≤ width ∧
          fit name width value = .error .unwritableWidth)))
  := by
  rw [fit_eq_ite]
  by_cases inside : 0 ≤ value ∧ value < (twoPow width : Int)
  · left
    rw [if_pos inside]
    exact ⟨inside, rfl⟩
  · right
    rw [if_neg inside]
    use inside
    by_cases writable : Numeral.isWritable width = true
    · left
      rw [if_pos writable, ← Numeral.isWritable_natCast_iff]
      exact ⟨writable, rfl⟩
    · right
      rw [if_neg writable, ← Nat.not_lt, ← Numeral.isWritable_natCast_iff]
      exact ⟨writable, rfl⟩

theorem exists_fit_eq_error_iff :
  (∃ e, fit name width value = .error e) ↔ ¬(0 ≤ value ∧ value < (twoPow width : Int))
  := by
  rcases fit_cases name width value with ⟨inside, stored⟩ | ⟨outside, ⟨-, told⟩ | ⟨-, untold⟩⟩
  · simp [stored, inside]
  · exact iff_of_true ⟨_, told⟩ outside
  · exact iff_of_true ⟨_, untold⟩ outside

theorem fit_eq_tooWide_iff :
  fit name width value = .error (.tooWide name width value) ↔
    ¬(0 ≤ value ∧ value < (twoPow width : Int)) ∧ width < Nat.pow 10 Numeral.maxDigits
  := by
  rcases fit_cases name width value with
    ⟨inside, stored⟩ | ⟨outside, ⟨few, told⟩ | ⟨many, untold⟩⟩
  · simp [stored, inside]
  · exact iff_of_true told ⟨outside, few⟩
  · rw [untold]
    constructor
    · rintro ⟨⟩
    · rintro ⟨-, few⟩
      exact absurd few (Nat.not_lt.mpr many)

theorem fit_eq_unwritableWidth_iff :
  fit name width value = .error .unwritableWidth ↔
    ¬(0 ≤ value ∧ value < (twoPow width : Int)) ∧ Nat.pow 10 Numeral.maxDigits ≤ width
  := by
  rcases fit_cases name width value with
    ⟨inside, stored⟩ | ⟨outside, ⟨few, told⟩ | ⟨many, untold⟩⟩
  · simp [stored, inside]
  · rw [told]
    constructor
    · rintro ⟨⟩
    · rintro ⟨-, many⟩
      exact absurd few (Nat.not_lt.mpr many)
  · exact iff_of_true untold ⟨outside, many⟩

end

namespace Cell

variable {name : String} {width : Int}

/-- The value that a call asks a cell to hold. -/
def asked (c : Cell name width) : CellCall → Int
  | .write value => value
  | .add delta => c.value + delta

/-- The cell that a call leaves, be it refused or not. -/
def after (c : Cell name width) (call : CellCall) : Cell name width :=
  match serve call c with
  | .ok _ c' => c'
  | .error _ c' => c'

/-- The cell after calls, the first one first. -/
def along (c : Cell name width) (calls : List CellCall) : Cell name width := calls.foldl after c

/-- The calls that are not refused when calls are made on a cell, the first one first. -/
def accepted (c : Cell name width) : List CellCall → List CellCall
  | [] => []
  | call :: calls =>
      match serve call c with
      | .ok _ c' => call :: c'.accepted calls
      | .error _ c' => c'.accepted calls

/-! ### One call -/

theorem store_eq (c : Cell name width) (value : Int) :
  store value c =
    match (ofValue value : Except Fault (Cell name width)) with
    | .ok c' => .ok () c'
    | .error e => .error e c
  := by
  rw [ofValue]
  show EStateM.bind _ _ c = _
  rw [EStateM.bind]
  cases fit name width value with
  | ok held => rfl
  | error e => rfl

/-- A call stores the value for which it asks, or leaves the cell as it was. -/
theorem serve_eq (c : Cell name width) (call : CellCall) :
  serve call c =
    match (ofValue (c.asked call) : Except Fault (Cell name width)) with
    | .ok c' => .ok () c'
    | .error e => .error e c
  := by
  cases call with
  | write value => apply store_eq
  | add delta => apply store_eq

/-- A value is taken into a cell if it is in the range of the width, and is refused otherwise. -/
theorem ofValue_cases (wide : 0 ≤ width) (value : Int) :
  ((0 ≤ value ∧ value < (twoPow width.toNat : Int)) ∧
      (ofValue value : Except Fault (Cell name width)) = .ok ⟨value.toNat⟩) ∨
    (¬(0 ≤ value ∧ value < (twoPow width.toNat : Int)) ∧
      ∃ e, (ofValue value : Except Fault (Cell name width)) = .error e)
  := by
  obtain ⟨bits, rfl⟩ := Int.eq_ofNat_of_zero_le wide
  rw [Int.toNat_natCast, ofValue]
  rcases fit_cases name bits value with ⟨inside, stored⟩ | ⟨outside, -⟩
  · left
    rw [stored]
    exact ⟨inside, rfl⟩
  · right
    obtain ⟨e, refused⟩ := (exists_fit_eq_error_iff name bits value).mpr outside
    rw [refused]
    exact ⟨outside, e, rfl⟩

/-- No cell has a negative width. -/
theorem nonneg_of_ofValue {value : Int} {c : Cell name width} (built : ofValue value = .ok c) :
  0 ≤ width
  := by
  apply Int.not_lt.mp
  intro negative
  rw [ofValue, fit, if_pos negative] at built
  cases built

/-- A cell takes the values in the range of its width, and holds what it takes. -/
theorem ofValue_eq_ok_iff (wide : 0 ≤ width) {value : Int} {c : Cell name width} :
  ofValue value = .ok c ↔
    (0 ≤ value ∧ value < (twoPow width.toNat : Int)) ∧ (c.value : Int) = value
  := by
  rcases c with ⟨held⟩
  rcases ofValue_cases wide value with ⟨inside, stored⟩ | ⟨outside, e, refused⟩
  · rw [stored, Except.ok.injEq, mk.injEq]
    dsimp only
    omega
  · rw [refused]
    constructor
    · rintro ⟨⟩
    · rintro ⟨inside, -⟩
      exact absurd inside outside

theorem exists_ofValue_eq_error_iff (wide : 0 ≤ width) {value : Int} :
  (∃ e, (ofValue value : Except Fault (Cell name width)) = .error e) ↔
    ¬(0 ≤ value ∧ value < (twoPow width.toNat : Int))
  := by
  rcases @ofValue_cases name width wide value with ⟨inside, stored⟩ | ⟨outside, refused⟩
  · rw [stored]
    simp [inside]
  · exact iff_of_true refused outside

theorem serve_eq_ok_iff {c c' : Cell name width} {call : CellCall} :
  serve call c = .ok () c' ↔ ofValue (c.asked call) = .ok c'
  := by
  rw [serve_eq]
  cases (ofValue (c.asked call) : Except Fault (Cell name width)) with
  | ok d => rw [EStateM.Result.ok.injEq, Except.ok.injEq, eq_self, true_and]
  | error e => exact ⟨nofun, nofun⟩

/-- A call that is refused leaves the cell as it was. -/
theorem serve_eq_error_iff {c c' : Cell name width} {call : CellCall} {e : Fault} :
  serve call c = .error e c' ↔
    c' = c ∧ (ofValue (c.asked call) : Except Fault (Cell name width)) = .error e
  := by
  rw [serve_eq]
  cases (ofValue (c.asked call) : Except Fault (Cell name width)) with
  | ok d => exact ⟨nofun, fun refused => nomatch refused.2⟩
  | error e' => rw [EStateM.Result.error.injEq, Except.error.injEq, and_comm, eq_comm (a := c)]

/-! ### Rows of calls -/

/-- A cell that holds a number of its width holds one after any calls. -/
theorem value_along_lt (wide : 0 ≤ width) {c : Cell name width}
    (inside : c.value < twoPow width.toNat) (calls : List CellCall) :
  (c.along calls).value < twoPow width.toNat
  := by
  induction calls generalizing c with
  | nil => exact inside
  | cons call calls ih =>
      apply ih
      rw [after]
      cases served : serve call c with
      | ok _ c' =>
          have stored := (ofValue_eq_ok_iff wide).mp (serve_eq_ok_iff.mp served)
          dsimp only
          omega
      | error e c' =>
          obtain ⟨rfl, -⟩ := serve_eq_error_iff.mp served
          exact inside

/-- The calls that are not refused can be made without the others, and lead to the same cell. -/
theorem forM_accepted (c : Cell name width) (calls : List CellCall) :
  (c.accepted calls).forM serve c = .ok () (c.along calls)
  := by
  induction calls generalizing c with
  | nil => rfl
  | cons call calls ih =>
      show _ = EStateM.Result.ok () ((c.after call).along calls)
      rw [accepted, after]
      cases served : serve call c with
      | ok _ c' =>
          show EStateM.bind (serve call) _ c = _
          rw [EStateM.bind, served]
          apply ih
      | error e c' =>
          obtain ⟨rfl, -⟩ := serve_eq_error_iff.mp served
          apply ih

/-- A value is refused for its width exactly if it is not in the range of the width, and the fault
tells the width unless this has too many digits to be written. Whatever calls were made on a cell
that was built, it holds a number of its width. A call on it is refused exactly if the value that it
asks for is outside the range, and leaves the cell as it was. The calls that are not refused lead to
the same cell without the others. -/
theorem range_kept (name : String) :
  (∀ (width : Nat) (value : Int),
      ((∃ e, fit name width value = .error e) ↔ ¬(0 ≤ value ∧ value < (twoPow width : Int))) ∧
      (fit name width value = .error (.tooWide name width value) ↔
        ¬(0 ≤ value ∧ value < (twoPow width : Int)) ∧ width < Nat.pow 10 Numeral.maxDigits) ∧
      (fit name width value = .error .unwritableWidth ↔
        ¬(0 ≤ value ∧ value < (twoPow width : Int)) ∧ Nat.pow 10 Numeral.maxDigits ≤ width)) ∧
    ∀ (width initial : Int) (c : Cell name width), ofValue initial = .ok c →
      0 ≤ width ∧ ∀ calls,
        let d := c.along calls
        d.value < twoPow width.toNat ∧
          (∀ call,
            ((∃ e d', serve call d = .error e d') ↔
              ¬(0 ≤ d.asked call ∧ d.asked call < (twoPow width.toNat : Int))) ∧
            (∀ e d', serve call d = .error e d' → d' = d) ∧
            ∀ d', serve call d = .ok () d' → d.after call = d' ∧ (d'.value : Int) = d.asked call) ∧
          (c.accepted calls).forM serve c = .ok () d
  := by
  constructor
  · intro width value
    use exists_fit_eq_error_iff name width value, fit_eq_tooWide_iff name width value
    apply fit_eq_unwritableWidth_iff
  · intro width initial c built
    have wide := nonneg_of_ofValue built
    obtain ⟨inside, held⟩ := (ofValue_eq_ok_iff wide).mp built
    use wide
    intro calls d
    use value_along_lt wide (by omega) calls
    constructor
    · intro call
      refine ⟨?_, fun e d' refused => (serve_eq_error_iff.mp refused).1, ?_⟩
      · rw [← @exists_ofValue_eq_error_iff name width wide]
        simp only [serve_eq_error_iff, exists_eq_left]
      · intro d' served
        rw [after, served]
        exact ⟨rfl, ((ofValue_eq_ok_iff wide).mp (serve_eq_ok_iff.mp served)).2⟩
    · apply forM_accepted

/-- A cell of eight bits is brought to its greatest value and back to zero, and refuses what is
beyond on either side. -/
theorem range_kept_byte :
  let c : Cell "V0" 8 := ⟨0xfe⟩
  let calls : List CellCall :=
    [.add 1, .add 1, .write 0x100, .add (-0xff), .write (-1), .write 0x12]
  ofValue 0xfe = .ok c ∧ (c.along calls).value = 0x12 ∧
    ([.add 1, .add (-0xff), .write 0x12] : List CellCall).forM serve c = .ok () (c.along calls) ∧
    ∃ e, serve (.add 0xee) (c.along calls) = .error e (c.along calls)
  := by
  intro c calls
  have built : ofValue 0xfe = .ok c := (ofValue_eq_ok_iff (by decide)).mpr (by decide)
  have accepted : c.accepted calls = [.add 1, .add (-0xff), .write 0x12] := by decide +kernel
  obtain ⟨-, run⟩ := (range_kept "V0").2 8 0xfe c built
  obtain ⟨-, answers, same⟩ := run calls
  obtain ⟨refused, kept, -⟩ := answers (.add 0xee)
  have value : (c.along calls).value = 0x12 := by decide +kernel
  have beyond : ∃ e d', serve (.add 0xee) (c.along calls) = .error e d' := by
    rw [refused, asked, value]
    decide
  obtain ⟨e, d', failed⟩ := beyond
  rw [accepted] at same
  refine ⟨built, value, same, e, ?_⟩
  rw [failed, kept e d' failed]

/-- A width that has too many digits is not told, so a value outside its range is not refused as too
wide. -/
theorem width_not_told :
  let width := Nat.pow 10 Numeral.maxDigits
  ¬(0 ≤ (-1 : Int) ∧ (-1 : Int) < (twoPow width : Int)) ∧
    ∀ told w value, fit "Cell" width (-1) ≠ .error (.tooWide told w value)
  := by
  intro width
  have outside : ¬(0 ≤ (-1 : Int) ∧ (-1 : Int) < (twoPow width : Int)) :=
    fun inside => absurd inside.1 (by decide)
  use outside
  intro told w value refused
  have untold : fit "Cell" width (-1) = .error .unwritableWidth :=
    (fit_eq_unwritableWidth_iff "Cell" width (-1)).mpr ⟨outside, Nat.le_refl _⟩
  cases untold.symm.trans refused

end Cell

end Chip8
