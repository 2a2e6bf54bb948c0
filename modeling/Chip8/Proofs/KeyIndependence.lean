import Chip8.Proofs.Rebooting

/-!
# Keys matter to key instructions only

Three instructions look at the keys (`Instruction.ReadsKeys`). As long as a program executes none of
them, it does the same whatever keys are held down, and no key leaks into any other part of the
machine: two machines that agree but for the keys (`Machine.AlikeButKeys`) still do so after a tick
that does not carry out such an instruction (`Processor.AlikeButKeys.tick`). So two runs with
different schedules of snapshots agree until the first of these instructions.
-/

namespace Chip8

/-- An instruction that looks at the keys. -/
def Instruction.ReadsKeys (i : Instruction) : Prop :=
  i = .skipIfKey ∨ i = .skipUnlessKey ∨ i = .awaitKey

instance (i : Instruction) : Decidable i.ReadsKeys :=
  inferInstanceAs (Decidable (_ ∨ _ ∨ _))

namespace Machine

/-! ### Machines with other keys -/

/-- The machine with other keys. -/
def withKeys (m : Machine) (keys : KeySnapshot) : Machine :=
  { m with registers := { m.registers with keys := keys } }

section

variable (m : Machine) (keys : KeySnapshot)

theorem load_withKeys (xs : List (Fin 16)) (a : Nat) :
  (m.withKeys keys).load xs a = (m.load xs a).withKeys keys
  := by
  induction xs generalizing m a with
  | nil => rfl
  | cons x xs ih => apply ih (m.withData x (m.ram.get a))

/-- An instruction that does not look at the keys does the same with other keys. -/
theorem outcome_withKeys {i : Instruction} (blind : ¬i.ReadsKeys) (op : Opcode) :
  (m.withKeys keys).outcome i op = (m.outcome i op).withKeys keys
  := by
  cases i with
  | skipIfKey => exact absurd (.inl rfl) blind
  | skipUnlessKey => exact absurd (.inr (.inl rfl)) blind
  | awaitKey => exact absurd (.inr (.inr rfl)) blind
  | loadRegisters =>
      have loaded := m.load_withKeys keys (Action.registersTo op.x) m.registers.i.value
      exact congrArg (fun m' : Machine =>
        (m'.withIndex (m.registers.i.value + op.x.val + 1)).forward 2) loaded
  | _ => rfl

/-- What an instruction leaves that is refused does not depend on the keys. -/
theorem remnant_withKeys (i : Instruction) (op : Opcode) :
  (m.withKeys keys).remnant i op = (m.remnant i op).withKeys keys
  := by
  cases i with
  | loadRegisters =>
      have loaded := m.load_withKeys keys
        ((Action.registersTo op.x).take (0x1000 - m.registers.i.value)) m.registers.i.value
      exact congrArg (fun m' : Machine => m'.withIndex 0xfff) loaded
  | _ => rfl

theorem refusal?_withKeys (i : Instruction) (op : Opcode) :
  (m.withKeys keys).refusal? i op = m.refusal? i op
  := by cases i <;> rfl

theorem fault?_withKeys :
  (m.withKeys keys).fault? = m.fault?
  := by
  have word : (m.withKeys keys).word = m.word := rfl
  have pc : (m.withKeys keys).registers.pc = m.registers.pc := rfl
  rw [fault?, fault?, word, pc]
  split
  · rfl
  · split
    · rfl
    · apply refusal?_withKeys

/-- A step that carries out no instruction that looks at the keys does the same with other keys. -/
theorem stepped_withKeys
    (blind : ∀ i, m.next? = some i → m.fault? = none → ¬i.ReadsKeys) :
  (m.withKeys keys).stepped = m.stepped.withKeys keys
  := by
  cases found : m.next? with
  | none =>
      have found' : (m.withKeys keys).next? = none := found
      rw [stepped, stepped, found, found']
  | some i =>
      have found' : (m.withKeys keys).next? = some i := found
      have refused := m.refusal?_withKeys keys i (.ofWord m.word)
      change (m.withKeys keys).refusal? i (.ofWord (m.withKeys keys).word) = _ at refused
      rw [stepped, stepped, found, found']
      dsimp only
      rw [refused]
      split
      · next granted =>
          apply outcome_withKeys
          apply blind i found
          rw [fault?_of_next? found, granted]
      · apply remnant_withKeys

end

theorem remnant_keys (m : Machine) (i : Instruction) (op : Opcode) :
  (m.remnant i op).registers.keys = m.registers.keys
  := by
  cases i with
  | loadRegisters => exact congrArg (fun m => m.registers.keys) (m.load_eq _ _)
  | _ => rfl

theorem stepped_keys (m : Machine) :
  m.stepped.registers.keys = m.registers.keys
  := by
  rw [stepped]
  split
  · rfl
  · split
    · apply outcome_keys
    · apply remnant_keys

/-! ### Machines that agree but for the keys -/

/-- Two machines agree but for the keys and the display slot, and their sources yield the same
numbers. -/
structure AlikeButKeys (m m' : Machine) : Prop where
  data : m'.registers.data = m.registers.data
  index : m'.registers.i = m.registers.i
  pc : m'.registers.pc = m.registers.pc
  ram : m'.ram = m.ram
  pixels : m'.screen.vram = m.screen.vram
  redraw : m'.screen.redraw = m.screen.redraw
  stack : m'.stack = m.stack
  delay : m'.delay = m.delay
  sound : m'.sound = m.sound
  awaiting : m'.awaiting = m.awaiting
  numbers : ∀ n, m'.random.number n = m.random.number n

/-- Machines that agree but for the keys are alike once they have the same keys. -/
theorem alikeButKeys_iff {m m' : Machine} :
  m.AlikeButKeys m' ↔ (m.withKeys m'.registers.keys).Alike m'
  := by
  constructor
  · intro h
    have registers : m'.registers = (m.withKeys m'.registers.keys).registers := by
      calc m'.registers
        _ = ⟨m'.registers.data, m'.registers.pc, m'.registers.i, m'.registers.keys⟩ := rfl
        _ = ⟨m.registers.data, m.registers.pc, m.registers.i, m'.registers.keys⟩ := by
            rw [h.data, h.pc, h.index]
    exact ⟨registers, h.ram, h.pixels, h.redraw, h.stack, h.delay, h.sound, h.awaiting, h.numbers⟩
  · intro h
    obtain ⟨registers, ram, pixels, redraw, stack, delay, sound, awaiting, numbers⟩ := h
    have data := congrArg Registers.data registers
    have index := congrArg Registers.i registers
    have pc := congrArg Registers.pc registers
    exact ⟨data, index, pc, ram, pixels, redraw, stack, delay, sound, awaiting, numbers⟩

namespace AlikeButKeys

variable {m m' : Machine} (h : m.AlikeButKeys m')

include h

theorem fault? :
  m'.fault? = m.fault?
  := by rw [(alikeButKeys_iff.mp h).fault?, fault?_withKeys]

theorem next? :
  m'.next? = m.next?
  := (alikeButKeys_iff.mp h).next?

/-- Steps that carry out no instruction that looks at the keys leave machines that agree but for the
keys. -/
theorem stepped (blind : ∀ i, m.next? = some i → m.fault? = none → ¬i.ReadsKeys) :
  m.stepped.AlikeButKeys m'.stepped
  := by
  rw [alikeButKeys_iff, stepped_keys, ← stepped_withKeys m _ blind]
  apply (alikeButKeys_iff.mp h).stepped

end AlikeButKeys

end Machine

namespace Processor

/-! ### Ticks -/

/-- The machines of two processors agree but for the keys, and both buzzers are on or both are
off. -/
structure AlikeButKeys (c c' : Processor) : Prop where
  machine : c.machine.AlikeButKeys c'.machine
  playing : c'.buzzerChannel.playing = c.buzzerChannel.playing

theorem presented_screen (c : Processor) :
  c.presented.machine.screen.vram = c.machine.screen.vram ∧
    c.presented.machine.screen.redraw = false
  := by
  rw [presented]
  cases scheduled : c.machine.screen.redraw with
  | true => exact ⟨rfl, rfl⟩
  | false => exact ⟨rfl, scheduled⟩

theorem stepped_playing (c : Processor) :
  c.stepped.buzzerChannel.playing = c.buzzerChannel.playing
  := by
  rw [stepped, aware_eq]

namespace AlikeButKeys

variable {c c' : Processor}

theorem served (h : c.AlikeButKeys c') :
  c.served.AlikeButKeys c'.served
  := by
  obtain ⟨keys, machine⟩ := c.served_machine
  obtain ⟨keys', machine'⟩ := c'.served_machine
  obtain ⟨pixels, drawn⟩ := c.presented_screen
  obtain ⟨pixels', drawn'⟩ := c'.presented_screen
  constructor
  · rw [machine, machine']
    exact {
      h.machine with
      pixels := pixels'.trans (h.machine.pixels.trans pixels.symm)
      redraw := drawn'.trans drawn.symm
      delay := congrArg (fun t : Timer "DT" => (⟨t.value - 1⟩ : Timer "DT")) h.machine.delay
      sound := congrArg (fun t : Timer "ST" => (⟨t.value - 1⟩ : Timer "ST")) h.machine.sound }
  · rw [served_playing, served_playing, h.machine.sound]

/-- A tick that carries out no instruction that looks at the keys leaves processors that agree but
for the keys, and it executes and publishes the same in both. -/
theorem tick (h : c.AlikeButKeys c') (bounds : c.machine.InBounds) (bounds' : c'.machine.InBounds)
    (blind : ∀ x, c.executed? .tick = some x → ¬x.instruction.ReadsKeys) :
  (c.after .tick).AlikeButKeys (c'.after .tick) ∧ c'.executed? .tick = c.executed? .tick ∧
    c'.published? .tick = c.published? .tick
  := by
  have stepped : (∀ i, c.machine.next? = some i → c.machine.fault? = none → ¬i.ReadsKeys) →
      c.stepped.AlikeButKeys c'.stepped := by
    intro unread
    use h.machine.stepped unread
    rw [stepped_playing, stepped_playing, h.playing]
  rcases tick_screen bounds with
    ⟨e, fault, -, idle, silent, after⟩ | ⟨i, sound, found, -, -, -, executed, published, -⟩
  · rcases tick_screen bounds' with
      ⟨e', fault', -, idle', silent', after'⟩ | ⟨i', sound', -⟩
    · rw [idle, idle', silent, silent', after, after']
      refine ⟨stepped ?_, rfl, rfl⟩
      intro i _ sound
      cases fault.symm.trans sound
    · cases fault.symm.trans (h.machine.fault?.symm.trans sound')
  · rcases tick_screen bounds' with
      ⟨e', fault', -⟩ | ⟨i', sound', found', -, -, -, executed', published', -⟩
    · cases sound.symm.trans (h.machine.fault?.symm.trans fault')
    · have same : c.stepped.AlikeButKeys c'.stepped := by
        apply stepped
        intro j found' _
        obtain rfl := Option.some.inj (found.symm.trans found')
        exact blind _ executed
      obtain rfl : i = i' :=
        Option.some.inj (found.symm.trans (h.machine.next?.symm.trans found'))
      rw [after_tick bounds, after_tick bounds', if_pos sound, if_pos sound']
      use same.served
      rw [executed, executed', published, published', presented?_eq, presented?_eq, h.machine.pc,
        same.machine.redraw, Screen.frame, Screen.frame, same.machine.pixels]
      exact ⟨rfl, rfl⟩

end AlikeButKeys

/-! ### Runs with different keys -/

/-- The first `n` ticks of a run, where before each tick the host publishes what a schedule tells
for it. -/
def scheduled (schedule : Nat → List (List Bool)) : Nat → List Request
  | 0 => []
  | n + 1 => scheduled schedule n ++ (schedule n).map .publish ++ [.tick]

/-- Publishing changes nothing but the key channel; it executes nothing and publishes no frame. -/
theorem play_publishing (c : Processor) (rs : List Request) (published : List (List Bool)) :
  let d := c.play (rs ++ published.map .publish)
  d.machine = (c.play rs).machine ∧ d.buzzerChannel = (c.play rs).buzzerChannel ∧
    c.history (rs ++ published.map .publish) = c.history rs ∧
    c.publications (rs ++ published.map .publish) = c.publications rs
  := by
  induction published using List.reverseRecOn with
  | nil =>
      rw [List.map_nil, List.append_nil]
      exact ⟨rfl, rfl, rfl, rfl⟩
  | append_singleton published states ih =>
      obtain ⟨machine, buzzer, history, publications⟩ := ih
      rw [List.map_append, List.map_singleton, ← List.append_assoc, play_concat, history_concat,
        publications_concat, after_publish_eq, history, publications]
      exact ⟨machine, buzzer, List.append_nil _, List.append_nil _⟩

/-- Ticks that carry out no instruction that looks at the keys do the same under any two
schedules. -/
theorem alikeButKeys_scheduled {c c' : Processor} (h : c.AlikeButKeys c')
    (bounds : c.machine.InBounds) (bounds' : c'.machine.InBounds)
    (schedule schedule' : Nat → List (List Bool)) (n : Nat)
    (unread : ∀ x ∈ c.history (scheduled schedule n), ¬x.instruction.ReadsKeys) :
  c'.history (scheduled schedule' n) = c.history (scheduled schedule n) ∧
    c'.publications (scheduled schedule' n) = c.publications (scheduled schedule n) ∧
    (c.play (scheduled schedule n)).AlikeButKeys (c'.play (scheduled schedule' n))
  := by
  induction n with
  | zero => exact ⟨rfl, rfl, h⟩
  | succ n ih =>
      obtain ⟨machine, buzzer, history, publications⟩ :=
        c.play_publishing (scheduled schedule n) (schedule n)
      obtain ⟨machine', buzzer', history', publications'⟩ :=
        c'.play_publishing (scheduled schedule' n) (schedule' n)
      rw [scheduled, history_concat, history] at unread
      obtain ⟨sameHistory, samePublications, alike⟩ :=
        ih fun x member => unread x (List.mem_append_left _ member)
      have ready : (c.play (scheduled schedule n ++ (schedule n).map .publish)).AlikeButKeys
          (c'.play (scheduled schedule' n ++ (schedule' n).map .publish)) := by
        constructor
        · rw [machine, machine']
          exact alike.machine
        · rw [buzzer, buzzer']
          exact alike.playing
      obtain ⟨ticked, executed, published⟩ :=
        ready.tick (play_inBounds bounds _) (play_inBounds bounds' _) (by
          intro x carried
          apply unread x
          rw [carried]
          exact List.mem_append_right _ (List.mem_singleton_self x))
      rw [scheduled, scheduled, history_concat, history_concat, publications_concat,
        publications_concat, play_concat, play_concat, history, history', publications,
        publications', sameHistory, samePublications, executed, published]
      exact ⟨rfl, rfl, ticked⟩

/-- Processors that boot the same program agree but for the keys. -/
theorem alikeButKeys_booted {c c' : Processor}
    (numbers : ∀ n, c'.machine.random.number n = c.machine.random.number n)
    (playing : c'.buzzerChannel.playing = c.buzzerChannel.playing) (rom : List UInt8) :
  (c.booted rom).AlikeButKeys (c'.booted rom)
  := by
  have kept : ∀ d : Processor, (d.booted rom).buzzerChannel = d.buzzerChannel := by
    intro d
    rw [booted, left_onMachine]
  constructor
  · have alike := machine_booted numbers rom
    rw [Machine.alikeButKeys_iff, alike.registers]
    exact alike
  · rw [kept, kept, playing]

/-- Keys matter to the instructions only that look at them. Two processors boot the same program,
draw the same random numbers, and receive any snapshots. As long as the first one carries out no
instruction that looks at the keys, both execute the same instructions, publish the same frames and
agree after every tick on everything but the keys; the next tick begins with the same instruction
and fails for the same fault, if it fails. -/
theorem keys_unread {c c' : Processor}
    (numbers : ∀ n, c'.machine.random.number n = c.machine.random.number n)
    (playing : c'.buzzerChannel.playing = c.buzzerChannel.playing) (rom : List UInt8)
    (schedule schedule' : Nat → List (List Bool)) (n : Nat)
    (unread : ∀ x ∈ (c.booted rom).history (scheduled schedule n), ¬x.instruction.ReadsKeys) :
  let d := (c.booted rom).play (scheduled schedule n)
  let d' := (c'.booted rom).play (scheduled schedule' n)
  (c'.booted rom).history (scheduled schedule' n) = (c.booted rom).history (scheduled schedule n) ∧
    (c'.booted rom).publications (scheduled schedule' n) =
      (c.booted rom).publications (scheduled schedule n) ∧
    d.AlikeButKeys d' ∧ d'.machine.next? = d.machine.next? ∧
    failure? (d'.play ((schedule' n).map .publish)).tick =
      failure? (d.play ((schedule n).map .publish)).tick
  := by
  intro d d'
  have bounds := (reachable_booted c rom).inBounds
  have bounds' := (reachable_booted c' rom).inBounds
  obtain ⟨history, publications, alike⟩ :=
    alikeButKeys_scheduled (alikeButKeys_booted numbers playing rom) bounds bounds'
      schedule schedule' n unread
  use history, publications, alike, alike.machine.next?
  have told := (d.play_publishing [] (schedule n)).1
  have told' := (d'.play_publishing [] (schedule' n)).1
  have inside : (d.play ((schedule n).map .publish)).machine.InBounds :=
    play_inBounds (play_inBounds bounds _) _
  have inside' : (d'.play ((schedule' n).map .publish)).machine.InBounds :=
    play_inBounds (play_inBounds bounds' _) _
  rw [failure?_tick inside, failure?_tick inside']
  exact (congrArg Machine.fault? told').trans
    (alike.machine.fault?.trans (congrArg Machine.fault? told).symm)

/-- A program that sounds and then looks at a key. -/
def soundThenLook : Processor :=
  (idle (.ofList [7])).booted [0x60, 0x05, 0xf0, 0x18, 0xe0, 0x9e]

/-- Until the program looks at the key it does not matter whether it is held down, and then it
does. -/
theorem keys_unread_soundThenLook :
  let d := soundThenLook.play (scheduled (fun _ => [twoKeysDown]) 2)
  let d' := soundThenLook.play (scheduled (fun _ => []) 2)
  d.AlikeButKeys d' ∧ d'.machine.next? = some .skipIfKey ∧
    d.machine.registers.keys.toList = twoKeysDown ∧ d'.machine.registers.keys = KeySnapshot.up ∧
    (d.after .tick).machine.registers.pc.value = 0x208 ∧
    (d'.after .tick).machine.registers.pc.value = 0x206
  := by
  intro d d'
  have run : (∀ x ∈ soundThenLook.history (scheduled (fun _ => [twoKeysDown]) 2),
        ¬x.instruction.ReadsKeys) ∧
      d.machine.next? = some .skipIfKey ∧
      d.machine.registers.keys.toList = twoKeysDown ∧ d'.machine.registers.keys = KeySnapshot.up ∧
      (d.after .tick).machine.registers.pc.value = 0x208 ∧
      (d'.after .tick).machine.registers.pc.value = 0x206 := by decide +kernel
  obtain ⟨unread, next, keys⟩ := run
  obtain ⟨-, -, alike, same, -⟩ := keys_unread (fun _ => rfl) rfl _ (fun _ => [twoKeysDown])
    (fun _ => []) 2 unread
  exact ⟨alike, same.trans next, keys⟩

end Processor

end Chip8
