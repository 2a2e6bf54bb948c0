import Chip8.Proofs.Frames
import Chip8.Proofs.Palettes
import Mathlib.Data.List.TakeWhile

/-!
# Painting

A window paints a frame pixel by pixel over what it painted before, three bytes for each. One pixel
changes its own bytes (`Window.toList_splice`), so a row of them replaces what it covers up to the
first byte that is no bit (`Window.paint_eq`). After any calls, among them those that fail, there are
as many painted bytes as the resolution asks for (`Window.follows_along`), and a frame of that many
bits replaces all of them (`Window.Follows.paints`). So the painted pixels tell nothing of what was
drawn before, even if painting ended half-way.
-/

namespace Chip8

/-! ### Calls -/

/-- What a window is asked for. A resolution is set with the storage that is free at that time. -/
inductive WindowCall where
  | resize (free : Storage) (width height : Int)
  | draw (frame : Frame)

namespace WindowCall

/-- A resolution has at least one column and one row. -/
def Proper : WindowCall → Prop
  | resize _ width height => 1 ≤ width ∧ 1 ≤ height
  | draw _ => True

instance : DecidablePred Proper
  | resize _ width height => inferInstanceAs (Decidable (1 ≤ width ∧ 1 ≤ height))
  | draw _ => isTrue trivial

/-- The painted pixels of a resolution have addresses, and their bytes are free. -/
def Storable (free : Storage) (width height : Int) : Prop :=
  3 * (width * height) < twoPow 63 ∧ free (3 * (width * height)).toNat = true

instance (free : Storage) (width height : Int) : Decidable (Storable free width height) :=
  inferInstanceAs (Decidable (_ ∧ _))

/-- The resolution after a call. One is not set if its painted pixels cannot be stored. -/
def resolve (current : Option (Int × Int)) : WindowCall → Option (Int × Int)
  | resize free width height =>
      if Storable free width height then some (width, height) else current
  | draw _ => current

/-- The last resolution that was set. -/
def resolution (calls : List WindowCall) : Option (Int × Int) := calls.foldl resolve none

end WindowCall

namespace Palette

/-- A palette is spelled by a text, or it is the one that is used without a text. -/
def GivenBy (p : Palette) : Option String → Prop
  | none => p = ⟨⟨0x22, 0x22, 0x22⟩, ⟨0xdd, 0xdd, 0xdd⟩⟩
  | some s => Spells s.toList p

theorem GivenBy.ofText_eq_ok {p : Palette} {palette : Option String} (given : p.GivenBy palette) :
  ofText palette = .ok p
  := by
  cases palette with
  | none =>
      obtain rfl := given
      rfl
  | some s => exact ofText_of_spells given

/-- The colour of a bit. -/
def colour (p : Palette) (bit : Nat) : Colour := if bit = 0 then p.background else p.foreground

/-- A byte has a colour exactly if it is a bit. -/
theorem colour?_eq (p : Palette) (byte : Nat) :
  p.colour? byte = if byte < 2 then some (p.colour byte) else none
  := by
  match byte with
  | 0 => rfl
  | 1 => rfl
  | byte + 2 => rfl

/-- The bytes of a row of bits in their colours. -/
def strokes (p : Palette) (bits : List Nat) : List Nat :=
  bits.flatMap fun bit => (p.colour bit).components

theorem length_strokes (p : Palette) (bits : List Nat) :
  (p.strokes bits).length = 3 * bits.length
  := by
  induction bits with
  | nil => rfl
  | cons bit bits ih =>
      rw [strokes, List.flatMap_cons, List.length_append, List.length_cons, Nat.mul_succ,
        Nat.add_comm]
      exact congrArg (· + 3) ih

/-- Three bytes are those of one bit. -/
theorem slice_strokes (p : Palette) {bits : List Nat} {k bit : Nat} (here : bits[k]? = some bit) :
  ((p.strokes bits).drop (3 * k)).take 3 = (p.colour bit).components
  := by
  induction bits generalizing k with
  | nil => cases here
  | cons bit' bits ih =>
      cases k with
      | zero =>
          obtain rfl := Option.some.inj here
          rfl
      | succ k =>
          rw [strokes, List.flatMap_cons, Nat.mul_succ, Nat.add_comm, ← List.drop_drop]
          exact ih here

end Palette

namespace Window

/-! ### The loop over the pixels -/

theorem toList_splice (bytes : Array Nat) (first last : Nat) (others : List Nat) :
  (splice bytes first last others).toList =
    bytes.toList.take first ++ others ++ bytes.toList.drop last
  := by
  rw [splice, Array.toList_append, Array.toList_appendList]
  simp

theorem size_splice {bytes : Array Nat} {first : Nat} {others : List Nat}
    (inside : first + others.length ≤ bytes.size) :
  (splice bytes first (first + others.length) others).size = bytes.size
  := by
  rw [← Array.length_toList, toList_splice, List.length_append, List.length_append,
    List.length_take, List.length_drop, Array.length_toList]
  omega

variable {w : Window}

/-- The bytes of a window after a row of pixels is painted from a location on. Painting ends at the
first byte that is no bit. -/
def painted (w : Window) (location : Nat) (f : List Nat) : List Nat :=
  let bits := f.takeWhile (· < 2)
  w.buffer.toList.take (3 * location) ++ w.palette.strokes bits ++
    w.buffer.toList.drop (3 * (location + bits.length))

/-- Nothing is painted before a byte that is no bit. -/
theorem painted_eq_self {location : Nat} {f : List Nat} (none : f.takeWhile (· < 2) = []) :
  w.painted location f = w.buffer.toList
  := by
  rw [painted, none]
  exact (congrArg (· ++ _) (List.append_nil _)).trans (List.take_append_drop _ _)

/-- As many bytes are painted as before. -/
theorem length_painted {location : Nat} {f : List Nat}
    (inside : 3 * (location + f.length) ≤ w.buffer.size) :
  (w.painted location f).length = w.buffer.size
  := by
  have few := (List.takeWhile_sublist (l := f) (· < 2)).length_le
  rw [painted, List.length_append, List.length_append, List.length_take, List.length_drop,
    Palette.length_strokes, Array.length_toList]
  omega

/-- What is painted after the first pixel of a row is painted after it in the row. -/
theorem painted_cons {location bit : Nat} (isBit : bit < 2) (bits : List Nat)
    (inside : 3 * (location + 1) ≤ w.buffer.size) :
  painted { w with
    buffer := splice w.buffer (location * 3) (location * 3 + 3) (w.palette.colour bit).components }
      (location + 1) bits =
    w.painted location (bit :: bits)
  := by
  have bitsToo : (bit :: bits).takeWhile (· < 2) = bit :: bits.takeWhile (· < 2) :=
    List.takeWhile_cons_of_pos (decide_eq_true isBit)
  have front : (w.buffer.toList.take (location * 3) ++
      (w.palette.colour bit).components).length = 3 * (location + 1) := by
    rw [List.length_append, List.length_take, Array.length_toList, Nat.min_eq_left (by omega)]
    exact (Nat.mul_succ 3 location).symm ▸ congrArg (· + 3) (Nat.mul_comm location 3)
  have rest : 3 * (location + 1 + (bits.takeWhile (· < 2)).length) =
      3 * (location + 1) + 3 * (bits.takeWhile (· < 2)).length := Nat.mul_add _ _ _
  rw [painted, painted, bitsToo, toList_splice, List.take_left' front, rest, ← List.drop_drop,
    List.drop_left' front, List.drop_drop, Palette.strokes, Palette.strokes, List.flatMap_cons,
    List.length_cons, Nat.mul_comm location 3]
  simp only [List.append_assoc]
  congr 4
  omega

/-- A pixel in a colour changes its own three bytes. -/
theorem paintPixel_eq (location byte : Nat) (w : Window) :
  paintPixel location byte w =
    if byte < 2 then
      .ok () { w with
        buffer := splice w.buffer (location * 3) (location * 3 + 3)
          (w.palette.colour byte).components }
    else .error .badPixel w
  := by
  rw [paintPixel, Palette.colour?_eq]
  by_cases isBit : byte < 2
  · rw [if_pos isBit, if_pos isBit]
  · rw [if_neg isBit, if_neg isBit]

/-- A row of pixels is painted up to the first byte that is no bit, and painting fails if there is
one. -/
theorem paint_eq {f : List Nat} {location : Nat}
    (inside : 3 * (location + f.length) ≤ w.buffer.size) :
  paint location f w =
    if ∀ byte ∈ f, byte < 2 then .ok () { w with buffer := (w.painted location f).toArray }
    else .error .badPixel { w with buffer := (w.painted location f).toArray }
  := by
  induction f generalizing location w with
  | nil =>
      rw [paint, painted_eq_self rfl, if_pos nofun]
      rfl
  | cons byte f ih =>
      rw [List.length_cons] at inside
      by_cases isBit : byte < 2
      · have first := (paintPixel_eq location byte w).trans (if_pos isBit)
        have own : location * 3 + (w.palette.colour byte).components.length ≤ w.buffer.size := by
          rw [Colour.components, List.length_cons, List.length_cons, List.length_singleton]
          omega
        have next : 3 * (location + 1 + f.length) ≤ (splice w.buffer (location * 3)
            (location * 3 + 3) (w.palette.colour byte).components).size :=
          Nat.le_trans (by omega) (Nat.le_of_eq (size_splice own).symm)
        rw [paint, bind_of_ok first, ih next, painted_cons isBit f (by omega)]
        simp only [List.forall_mem_cons, isBit, true_and]
      · have first := (paintPixel_eq location byte w).trans (if_neg isBit)
        have none : (byte :: f).takeWhile (· < 2) = [] :=
          List.takeWhile_cons_of_neg (by rw [decide_eq_true_iff]; exact isBit)
        have refused : ¬∀ byte' ∈ byte :: f, byte' < 2 := fun all => isBit (all _ List.mem_cons_self)
        rw [paint, bind_of_error first, painted_eq_self none, if_neg refused]

/-- A row of bits replaces all that was painted before. -/
theorem painted_eq_strokes {f : List Nat} (fits : w.buffer.size = 3 * f.length)
    (bits : ∀ bit ∈ f, bit < 2) :
  w.painted 0 f = w.palette.strokes f
  := by
  have all : f.takeWhile (· < 2) = f := by
    rw [List.takeWhile_eq_self_iff]
    exact fun bit member => decide_eq_true (bits bit member)
  have covered : w.buffer.toList.length ≤ 3 * (0 + f.length) := by
    rw [Array.length_toList, Nat.zero_add, fits]
  rw [painted, all, List.drop_of_length_le covered, Nat.mul_zero, List.take_zero, List.nil_append,
    List.append_nil]

/-! ### What a call does -/

/-- The bytes of a pixel. -/
def pixel (w : Window) (k : Nat) : List Nat := (w.buffer.extract (3 * k) (3 * k + 3)).toList

/-- A window has accepted a frame, and its painted pixels have the colours of the bits. -/
structure Paints (p : Palette) (f : Frame) (w w' : Window) : Prop where
  kept : w'.display.frame = some f
  counted : w'.display.drawn = w.display.drawn + 1
  whole : w'.buffer.size = 3 * f.length
  coloured : ∀ k bit, f[k]? = some bit →
    w'.pixel k = (if bit = 0 then p.background else p.foreground).components

/-- The window after a call, which may have failed. -/
def after (w : Window) : WindowCall → Window
  | .resize free width height => (w.tryResize free width height).toOption.getD w
  | .draw frame => left (present frame w)

/-- The window after calls. -/
def along (w : Window) (calls : List WindowCall) : Window := calls.foldl after w

/-- A resolution can be set exactly if its painted pixels can be stored. -/
theorem tryResize_cases (free : Storage) (w : Window) {width height : Int} (columns : 1 ≤ width)
    (rows : 1 ≤ height) :
  (WindowCall.Storable free width height ∧
      w.tryResize free width height = .ok (w.resize width height)) ∨
    ¬WindowCall.Storable free width height ∧ ∃ e, w.tryResize free width height = .error e
  := by
  have positive : 0 < width * height := Int.mul_pos (by omega) (by omega)
  rw [tryResize, Int.max_eq_left (by omega), WindowCall.Storable]
  have counted : Signed.holds 63 (width * height) = true ↔ width * height < twoPow 63 := by
    rw [Signed.holds_iff]
    omega
  by_cases storable : 3 * (width * height) < twoPow 63 ∧ free (3 * (width * height)).toNat = true
  · have bytes : Excess.ofBytes? free (3 * (width * height)) = none :=
      (Excess.ofBytes?_eq_none_iff _ _).mpr ⟨by omega, storable.2⟩
    rw [counted.mpr (by omega), bytes]
    exact .inl ⟨storable, rfl⟩
  · right
    use storable
    cases pixels : Signed.holds 63 (width * height) with
    | false => exact ⟨_, rfl⟩
    | true =>
        cases bytes : Excess.ofBytes? free (3 * (width * height)) with
        | none =>
            obtain ⟨⟨-, small⟩, stored⟩ := (Excess.ofBytes?_eq_none_iff _ _).mp bytes
            exact absurd ⟨small, stored⟩ storable
        | some excess => exact ⟨_, rfl⟩

/-- A resolution is refused for no other reason than an excess. -/
theorem tryResize_error {free : Storage} {width height : Int} {e : HostError}
    (failed : w.tryResize free width height = .error e) :
  ∃ excess, e = .excessive excess
  := by
  rw [tryResize] at failed
  split at failed
  · cases failed
    exact ⟨_, rfl⟩
  · split at failed
    · cases failed
      exact ⟨_, rfl⟩
    · cases failed

theorem tryResize_ok_iff (free : Storage) {width height : Int} (columns : 1 ≤ width)
    (rows : 1 ≤ height) :
  (∃ w', w.tryResize free width height = .ok w') ↔ WindowCall.Storable free width height
  := by
  rcases w.tryResize_cases free columns rows with ⟨storable, set⟩ | ⟨excessive, e, failed⟩
  · exact iff_of_true ⟨_, set⟩ storable
  · refine iff_of_false ?_ excessive
    rintro ⟨w', set⟩
    cases failed.symm.trans set

theorem present_eq_error {f : Frame}
    (misfits : (f.length : Int) ≠ w.display.width * w.display.height) :
  present f w = .error .frameSize w
  := by
  have refused : keep f w = .error .frameSize w := by
    rw [keep, Display.present, if_neg misfits]
  rw [present, bind_of_error refused]

/-- The window with a frame that was kept and painted. -/
def covered (w : Window) (f : Frame) : Window :=
  { w with
    display := { w.display with frame := some f, drawn := w.display.drawn + 1 }
    buffer := (w.painted 0 f).toArray }

/-- A frame of the right length is kept and painted, and then the window system is asked to show it
if all of it is bits. -/
theorem present_eq {f : Frame} (fits : (f.length : Int) = w.display.width * w.display.height)
    (size : w.buffer.size = 3 * f.length) :
  present f w =
    if ∀ byte ∈ f, byte < 2 then refresh (w.covered f) else .error .badPixel (w.covered f)
  := by
  have kept : keep f w = .ok () { w with
      display := { w.display with frame := some f, drawn := w.display.drawn + 1 } } := by
    rw [keep, Display.present, if_pos fits]
  have loop := @paint_eq { w with
    display := { w.display with frame := some f, drawn := w.display.drawn + 1 } } f 0
    (by rw [Nat.zero_add, size])
  rw [present, bind_of_ok kept]
  by_cases bits : ∀ byte ∈ f, byte < 2
  · rw [if_pos bits] at loop
    rw [bind_of_ok loop, if_pos bits]
    rfl
  · rw [if_neg bits] at loop
    rw [bind_of_error loop, if_neg bits]
    rfl

/-- Whether what is painted is shown or not, it stays painted. -/
theorem left_refresh (w : Window) :
  ∃ shown, left (refresh w) = { w with shown := shown }
  := by
  rw [refresh]
  cases w.answer with
  | ok u => exact ⟨_, rfl⟩
  | error reason => exact ⟨w.shown, rfl⟩

theorem refresh_ok_iff (w : Window) :
  (∃ w', refresh w = .ok () w') ↔ w.answer = .ok ()
  := by
  rw [refresh]
  cases w.answer with
  | ok u => exact iff_of_true ⟨_, rfl⟩ rfl
  | error reason => exact iff_of_false (fun ⟨_, shown⟩ => nomatch shown) nofun

/-- What a frame of the right length leaves. -/
theorem left_present {f : Frame} (fits : (f.length : Int) = w.display.width * w.display.height)
    (size : w.buffer.size = 3 * f.length) :
  ∃ shown, left (present f w) = { w.covered f with shown := shown }
  := by
  rw [present_eq fits size]
  by_cases bits : ∀ byte ∈ f, byte < 2
  · rw [if_pos bits]
    apply left_refresh
  · rw [if_neg bits]
    exact ⟨w.shown, rfl⟩

/-! ### What calls keep -/

/-- An open window has the palette and the size it was opened with, and three painted bytes for each
pixel of its display. -/
structure Follows (start : Window) (current : Option (Int × Int)) (w : Window) : Prop where
  system : w.system = start.system
  palette : w.palette = start.palette
  size : w.size = start.size
  opened : w.isOpen = true
  painted : w.buffer.size = 3 * (w.display.width * w.display.height).toNat
  resolution : ∀ width height, current = some (width, height) →
    w.display.width = width ∧ w.display.height = height

variable {start : Window} {current : Option (Int × Int)}

theorem Follows.size_eq (h : Follows start current w) {f : Frame}
    (fits : (f.length : Int) = w.display.width * w.display.height) :
  w.buffer.size = 3 * f.length
  := by
  rw [h.painted, ← fits, Int.toNat_natCast]

/-- Every call, whether it fails or not, keeps what the next ones rely on. -/
theorem Follows.after (h : Follows start current w) {call : WindowCall} (proper : call.Proper) :
  Follows start (call.resolve current) (w.after call)
  := by
  cases call with
  | resize free width height =>
      rcases w.tryResize_cases free proper.1 proper.2 with ⟨storable, set⟩ | ⟨excessive, e, failed⟩
      · rw [Window.after, set, WindowCall.resolve, if_pos storable]
        have size : (w.resize width height).buffer.size = 3 * (width * height).toNat := by
          rw [resize, List.size_toArray, List.length_flatten, List.map_replicate,
            List.sum_replicate_nat, Nat.mul_comm]
          rfl
        refine ⟨h.system, h.palette, h.size, h.opened, size, ?_⟩
        rintro _ _ ⟨⟩
        exact ⟨rfl, rfl⟩
      · rw [Window.after, failed, WindowCall.resolve, if_neg excessive]
        exact h
  | draw frame =>
      rw [Window.after, WindowCall.resolve]
      by_cases fits : (frame.length : Int) = w.display.width * w.display.height
      · have size := h.size_eq fits
        obtain ⟨shown, same⟩ := left_present fits size
        have painted : (w.covered frame).buffer.size = w.buffer.size :=
          List.size_toArray.trans (length_painted (by rw [Nat.zero_add, size]))
        rw [same]
        exact ⟨h.system, h.palette, h.size, h.opened, painted.trans h.painted, h.resolution⟩
      · rw [present_eq_error fits]
        exact h

theorem follows_along (h : Follows start current w) {calls : List WindowCall}
    (proper : ∀ call ∈ calls, call.Proper) :
  Follows start (calls.foldl WindowCall.resolve current) (w.along calls)
  := by
  induction calls generalizing current w with
  | nil => exact h
  | cons call calls ih =>
      obtain ⟨first, rest⟩ := List.forall_mem_cons.mp proper
      exact ih (h.after first) rest

/-! ### Frames -/

/-- A frame of bits that has the size of the display is kept and painted, and drawing it succeeds
exactly if the window system shows it. -/
theorem Follows.paints {width height : Int} (h : Follows start (some (width, height)) w) {f : Frame}
    (fits : (f.length : Int) = width * height) (bits : ∀ bit ∈ f, bit ≤ 1) :
  Paints start.palette f w (left (present f w)) ∧
    ((∃ w', present f w = .ok () w') ↔
      start.system.shows (w.display.drawn + 1) true start.size.1 start.size.2
        ⟨width, height, (left (present f w)).buffer⟩ = .ok ())
  := by
  obtain ⟨rfl, rfl⟩ := h.resolution _ _ rfl
  have size := h.size_eq fits
  have all : ∀ byte ∈ f, byte < 2 := fun byte member => Nat.lt_succ_of_le (bits byte member)
  obtain ⟨shown, same⟩ := left_present fits size
  have strokes : (w.covered f).buffer.toList = start.palette.strokes f := by
    rw [← h.palette, ← painted_eq_strokes size all]
    rfl
  constructor
  · rw [same]
    constructor
    case kept => rfl
    case counted => rfl
    case whole =>
      show (w.covered f).buffer.size = _
      rw [← Array.length_toList, strokes, Palette.length_strokes]
    case coloured =>
      intro k bit here
      show ((w.covered f).buffer.extract (3 * k) (3 * k + 3)).toList = _
      rw [Array.toList_extract, strokes, List.extract_eq_take_drop, Nat.add_sub_cancel_left,
        Palette.slice_strokes _ here, Palette.colour]
  · rw [present_eq fits size, if_pos all, refresh_ok_iff]
    rw [present_eq fits size, if_pos all] at same
    rw [same, answer, picture, ← h.system, ← h.size]
    show w.system.shows _ w.isOpen _ _ _ = _ ↔ _
    rw [h.opened]
    rfl

/-- A window that is opened with a palette has just been opened. -/
theorem create_eq_ok {system : WindowSystem} {scale : Option Int} {palette : Option String}
    {p : Palette} (given : p.GivenBy palette) (opened : create system scale palette = .ok start) :
  start = ofScale system (scale.getD defaultScale) p
  := by
  rw [create_of_ofText given.ofText_eq_ok, ofPalette] at opened
  split at opened
  · exact (Except.ok.inj opened).symm
  · cases opened

/-- A window follows what it was opened with. -/
theorem follows_ofScale (system : WindowSystem) (scale : Int) (p : Palette) :
  Follows (ofScale system scale p) none (ofScale system scale p)
  where
  system := rfl
  palette := rfl
  size := rfl
  opened := rfl
  painted := rfl
  resolution := nofun

/-- Let a window be opened with the usual palette or one that is spelled, and let there be calls
after it, among which a resolution was set; one can be set exactly if its pixels can be stored. Then
a frame that has not its number of pixels is refused and changes nothing. A frame of as many bits is
accepted and painted in the colours of its bits, whatever was painted before, and drawing it
succeeds exactly if the window system shows what is painted. In the resolution of the machine, this
holds of the frames that it publishes, and those pixels are painted in the colour of the foreground
that are on. -/
theorem frames_painted {system : WindowSystem} {scale : Option Int} {palette : Option String}
    {p : Palette} (given : p.GivenBy palette) (opened : create system scale palette = .ok start)
    {calls : List WindowCall} (proper : ∀ call ∈ calls, call.Proper) {width height : Int}
    (resolution : WindowCall.resolution calls = some (width, height)) :
  let w := start.along calls
  (∀ (free : Storage) (width' height' : Int), 1 ≤ width' → 1 ≤ height' →
    ((∃ w', w.tryResize free width' height' = .ok w') ↔
      3 * (width' * height') < twoPow 63 ∧ free (3 * (width' * height')).toNat = true)) ∧
  (∀ f : Frame, (f.length : Int) ≠ width * height → present f w = .error .frameSize w) ∧
  (∀ f : Frame, (f.length : Int) = width * height → (∀ bit ∈ f, bit ≤ 1) →
    Paints p f w (left (present f w)) ∧
    ((∃ w', present f w = .ok () w') ↔
      system.shows (w.display.drawn + 1) true (scale.getD 640) (scale.getD 640 / 2)
        ⟨width, height, (left (present f w)).buffer⟩ = .ok ())) ∧
  (width = Geometry.standard.width → height = Geometry.standard.height →
    ∀ (c : Processor) (rom : List UInt8), rom.length ≤ Machine.programRoom →
      ∀ (rs : List Request), ∀ f ∈ (c.booted rom).publications rs,
        ∃ before d, f.length = 64 * 32 ∧ (∀ bit ∈ f, bit ≤ 1) ∧
          Paints p f w (left (present f w)) ∧
          before ++ [.tick] <+: rs ∧ ((c.booted rom).play before).step = .ok () d ∧
          ∀ x y : Nat, x < 64 → y < 32 →
            (left (present f w)).pixel (y * 64 + x) =
              (if d.machine.screen.vram.get (y * 64 + x) = 1 then p.foreground
                else p.background).components)
  := by
  intro w
  obtain rfl := create_eq_ok given opened
  have follows : Follows (ofScale system (scale.getD defaultScale) p) (some (width, height)) w := by
    rw [← resolution]
    exact follows_along (follows_ofScale system _ p) proper
  obtain ⟨columns, rows⟩ := follows.resolution width height rfl
  constructor
  · intro free width' height' columns' rows'
    apply tryResize_ok_iff free columns' rows'
  constructor
  · intro f misfits
    apply present_eq_error
    rw [columns, rows]
    exact misfits
  constructor
  · intro f fits bits
    apply follows.paints fits bits
  · rintro rfl rfl c rom short rs f published
    have bounds : (c.booted rom).machine.InBounds := (Processor.Reachable.boot c rom short).inBounds
    obtain ⟨before, d, begins, stepped, same, shown⟩ :=
      Processor.publications_shown bounds f published
    have fits : (f.length : Int) = Geometry.standard.width * Geometry.standard.height := by
      rw [shown.length]
      rfl
    have painted := (follows.paints fits shown.bits).1
    refine ⟨before, d, shown.length, shown.bits, painted, begins, stepped, ?_⟩
    intro x y column row
    have here : f[y * 64 + x]? = some (d.machine.screen.vram.get (y * 64 + x)) := by
      rw [same]
      apply Screen.getElem?_frame
      omega
    have bit := shown.bits _ (List.mem_of_getElem? here)
    rw [painted.coloured _ _ here]
    obtain off | on : d.machine.screen.vram.get (y * 64 + x) = 0 ∨
        d.machine.screen.vram.get (y * 64 + x) = 1 := by omega
    · rw [off]
      rfl
    · rw [on]
      rfl

/-- The colours of a palette in letters of both cases. -/
def mixedCase : Palette := ⟨⟨0x12, 0xab, 0xcd⟩, ⟨0x0f, 0xe9, 0xd8⟩⟩

/-- A gigabyte is free. -/
def gigabyte : Storage := fun count => count ≤ 1073741824

/-- Calls of a window that fail in between: a byte of a frame is no bit, a resolution is too large
and a frame too short. -/
def roughCalls : List WindowCall :=
  [.resize gigabyte 64 32, .draw (List.replicate 2047 1 ++ [7]),
    .resize gigabyte 0x100000000 0x100000000, .draw [1]]

/-- After calls that failed, a window paints the corner of the first digit that a program draws. -/
theorem frames_painted_afterFailure :
  ∃ start f, create .willing none (some "12aBcD,0Fe9d8") = .ok start ∧
    f ∈ Processor.blinking.publications [.tick] ∧
    (∃ w', present f (start.along roughCalls) = .ok () w') ∧
    (left (present f (start.along roughCalls))).pixel 0 = [0x0f, 0xe9, 0xd8]
  := by
  have given : mixedCase.GivenBy (some "12aBcD,0Fe9d8") :=
    @Palette.Spells.both ['1', '2', 'a', 'B', 'c', 'D'] ['0', 'F', 'e', '9', 'd', '8'] _ _
      ⟨1, 2, 10, 11, 12, 13, by decide, rfl⟩ ⟨0, 15, 14, 9, 13, 8, by decide, rfl⟩
  have opened : create .willing none (some "12aBcD,0Fe9d8") =
      .ok (ofScale .willing 640 mixedCase) := create_of_ofText given.ofText_eq_ok
  have proper : ∀ call ∈ roughCalls, call.Proper := by decide
  have resolution : WindowCall.resolution roughCalls = some (64, 32) := by decide +kernel
  have published : ∃ f, f ∈ Processor.blinking.publications [.tick] := by
    apply List.exists_mem_of_ne_nil
    decide +kernel
  obtain ⟨f, member⟩ := published
  obtain ⟨-, -, accepted, shown⟩ := frames_painted given opened proper resolution
  obtain ⟨before, d, size, bits, -, begins, stepped, coloured⟩ :=
    shown rfl rfl _ _ (by decide) [.tick] f member
  have fits : (f.length : Int) = 64 * 32 := by
    rw [size]
    rfl
  refine ⟨_, f, opened, member, (accepted f fits bits).2.mpr rfl, ?_⟩
  obtain rfl : before = [] := by
    have length := begins.length_le
    rw [List.length_append] at length
    exact List.eq_nil_of_length_eq_zero (Nat.le_zero.mp (Nat.le_of_succ_le_succ length))
  have on : (left Processor.blinking.step).machine.screen.vram.get (0 * 64 + 0) = 1 := by
    decide +kernel
  have same : Processor.blinking.step = .ok () d := stepped
  rw [same] at on
  change d.machine.screen.vram.get (0 * 64 + 0) = 1 at on
  have corner := coloured 0 0 (by decide) (by decide)
  rw [if_pos on] at corner
  exact corner

/-- A resolution that has no addresses is not set, however much is free, so that a frame of another
length is kept. -/
theorem present_unstored :
  ∃ start, create .willing (some 8) none = .ok start ∧
    (([] : Frame).length : Int) ≠ 0x100000000 * 0x100000000 ∧
    (start.along [.resize (fun _ => true) 0x100000000 0x100000000]).display.frame = none ∧
    (left (present [] (start.along [.resize (fun _ => true) 0x100000000 0x100000000]))).display.frame =
      some []
  := by
  use ofScale .willing 8 ⟨⟨0x22, 0x22, 0x22⟩, ⟨0xdd, 0xdd, 0xdd⟩⟩
  refine ⟨?_, by decide, by decide +kernel, by decide +kernel⟩
  exact create_of_ofText rfl

end Window

end Chip8
