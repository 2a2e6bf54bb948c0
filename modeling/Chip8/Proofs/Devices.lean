import Chip8.Host
import Chip8.Proofs.Frames
import Chip8.Proofs.Interleaving
import Chip8.Proofs.Painting

/-!
# Devices that do not fail

A keyboard fails only if it has to ask a window system and no window is open. A renderer fails only
if a frame does not fit or the window system does not show it: a display of the machine's
resolution takes every frame that the machine publishes, if the window system shows pictures of
that size. So a host with such devices makes its moves without errors (`Host.Ready`).
-/

namespace Chip8

/-! ### The display slot -/

namespace Latest

variable {α : Type}

/-- The value that was put into the slot and not taken. -/
def pending? (s : Latest α) : Option α := s.take.1

theorem pending?_take (s : Latest α) :
  s.take.2.pending? = none
  := by
  obtain ⟨value, fresh⟩ := s
  cases fresh with
  | true => rfl
  | false => rfl

end Latest

/-! ### Renderers -/

/-- The display with another frame drawn, if there is one. -/
def Display.taking (d : Display) : Option Frame → Display
  | none => d
  | some f => { d with frame := some f, drawn := d.drawn + 1 }

/-- A window that shows the machine's frames: it is open and has painted as many pixels as they
have, and the window system shows whatever has the colours of that many. -/
structure Window.Ready (w : Window) : Prop where
  opened : w.isOpen = true
  painted : w.buffer.size = 3 * (64 * 32)
  shows : ∀ frames bytes, bytes.size = 3 * (64 * 32) →
    w.system.shows frames true w.size.1 w.size.2 ⟨64, 32, bytes⟩ = .ok ()

namespace Renderer

/-- A renderer that takes the machine's frames: its display has the machine's resolution, and if it
is a window, it shows them. -/
structure Ready (r : Renderer) : Prop where
  width : r.display.width = 64
  height : r.display.height = 32
  window : ∀ w, r = .window w → w.Ready

theorem present_eq_ok {r : Renderer} (ready : r.Ready) {f : Frame} (sound : f.Sound) :
  ∃ r', present f r = .ok () r' ∧ r'.Ready ∧ r'.display = r.display.taking f
  := by
  have fits : (f.length : Int) = r.display.width * r.display.height := by
    rw [sound.length, ready.width, ready.height]
    rfl
  cases r with
  | plain d =>
      have taken : d.present f = .ok (d.taking f) := if_pos fits
      use .plain (d.taking f)
      rw [present, taken]
      exact ⟨rfl, ⟨ready.width, ready.height, nofun⟩, rfl⟩
  | window w =>
      have own := ready.window w rfl
      have size : w.buffer.size = 3 * f.length := by rw [own.painted, sound.length]
      have bits : ∀ byte ∈ f, byte < 2 := fun bit member =>
        Nat.lt_succ_of_le (sound.bits bit member)
      have painted : (w.covered f).buffer.size = 3 * (64 * 32) := by
        have length := @Window.length_painted w 0 f (by rw [Nat.zero_add, size])
        exact List.size_toArray.trans (length.trans own.painted)
      have width : w.display.width = 64 := ready.width
      have height : w.display.height = 32 := ready.height
      have answered : (w.covered f).answer = .ok () := by
        show w.system.shows _ w.isOpen w.size.1 w.size.2
          ⟨w.display.width, w.display.height, (w.covered f).buffer⟩ = _
        rw [own.opened, width, height]
        apply own.shows _ _ painted
      have shown : Window.present f w =
          .ok () { w.covered f with shown := some (w.covered f).picture } := by
        rw [Window.present_eq fits size, if_pos bits, Window.refresh, answered]
      use .window { w.covered f with shown := some (w.covered f).picture }
      rw [present, shown]
      refine ⟨rfl, ⟨width, height, ?_⟩, rfl⟩
      rintro _ ⟨⟩
      exact ⟨own.opened, painted, own.shows⟩

theorem Ready.retitle {r : Renderer} (ready : r.Ready) (title : String) :
  (r.retitle title).Ready ∧ (r.retitle title).display = r.display
  := by
  cases r with
  | plain d => exact ⟨ready, rfl⟩
  | window w =>
      have own := ready.window w rfl
      refine ⟨⟨ready.width, ready.height, ?_⟩, rfl⟩
      rintro _ ⟨⟩
      exact ⟨own.opened, own.painted, own.shows⟩

end Renderer

/-! ### Hosts -/

namespace Host

/-- A host whose devices do not fail: its renderer takes the machine's frames, and a window is open
if the keyboard has to ask the window system. -/
structure Ready (h : Host) : Prop where
  renderer : h.renderer.Ready
  keyboard : h.keyboard.kind = .desktop → h.desktop.isSome = true

/-- Whether the user wants to quit can be asked, and only the events that waited are gone then. -/
theorem quitAsked_eq_ok {s : System} (ready : s.host.Ready) :
  ∃ quit desktop, quitAsked s = .ok quit { s with host := { s.host with desktop := desktop } } ∧
    Ready { s.host with desktop := desktop }
  := by
  have answered : ∃ quit, s.host.keyboard.asksToQuit s.host.desktop = .ok quit := by
    cases kind : s.host.keyboard.kind with
    | headless =>
        use s.host.keyboard.quitting
        simp only [Keyboard.asksToQuit, kind]
    | desktop =>
        obtain ⟨d, opened⟩ := Option.isSome_iff_exists.mp (ready.keyboard kind)
        use d.events.any DesktopEvent.asksToQuit
        simp only [Keyboard.asksToQuit, kind, opened]
  obtain ⟨quit, answered⟩ := answered
  use quit, s.host.desktop.map fun d => { d with events := [] }
  constructor
  · rw [quitAsked, answered]
  · use ready.renderer
    intro kind
    rw [Option.isSome_map]
    apply ready.keyboard kind

/-- The keys can be published. -/
theorem publishKeys_eq_ok {s : System} (ready : s.host.Ready) :
  ∃ keyboard, publishKeys s =
      .ok () { cpu := { s.cpu with keyChannel := s.cpu.keyChannel.deliver keyboard.down }
               host := { s.host with keyboard := keyboard } } ∧
    Ready { s.host with keyboard := keyboard }
  := by
  cases kind : s.host.keyboard.kind with
  | headless =>
      use s.host.keyboard
      constructor
      · simp only [publishKeys, Keyboard.refresh, kind]
      · exact ready
  | desktop =>
      obtain ⟨d, opened⟩ := Option.isSome_iff_exists.mp (ready.keyboard kind)
      use { s.host.keyboard with
        down := Keyboard.takeHeld d.held s.host.keyboard.down s.host.keyboard.keymap.pairs }
      constructor
      · simp only [publishKeys, Keyboard.refresh, kind, opened]
      · use ready.renderer
        exact ready.keyboard

/-- The frame that was published and not taken is shown, if there is one. -/
theorem showFrame_eq_ok {s : System} (ready : s.host.Ready)
    (sound : ∀ f, s.cpu.machine.screen.display.pending? = some f → f.Sound) :
  ∃ renderer, showFrame s =
      .ok ()
        { cpu := { s.cpu with
            machine := s.cpu.machine.withDisplay s.cpu.machine.screen.display.take.2 }
          host := { s.host with renderer := renderer } } ∧
    Ready { s.host with renderer := renderer } ∧
    renderer.display = s.host.renderer.display.taking s.cpu.machine.screen.display.pending?
  := by
  rw [showFrame, bind_of_ok (takeFrame_eq s)]
  cases pending : s.cpu.machine.screen.display.pending? with
  | none =>
      change s.cpu.machine.screen.display.take.1 = none at pending
      rw [pending]
      use s.host.renderer, rfl, ready
      rfl
  | some f =>
      obtain ⟨renderer, presented, ready', same⟩ :=
        Renderer.present_eq_ok ready.renderer (sound f pending)
      change s.cpu.machine.screen.display.take.1 = some f at pending
      rw [pending]
      use renderer
      constructor
      · dsimp only
        rw [draw, presented]
      · exact ⟨⟨ready', ready.keyboard⟩, same⟩

end Host

end Chip8
