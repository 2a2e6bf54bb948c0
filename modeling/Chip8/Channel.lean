import Chip8.Latest
import Chip8.Registers

/-!
# Channels

The key channel brings snapshots of all sixteen keys from the host to the key registers. The
buzzer channel tells the host when the buzzer has to be switched.
-/

namespace Chip8

/-- The states of all keys at one moment. -/
abbrev KeySnapshot := Vector Bool 16

/-- The channel through which the machine receives the keys. -/
structure KeyChannel where
  slot : Latest KeySnapshot
deriving DecidableEq

namespace KeyChannel

/-- The channel before the first snapshot. -/
def empty : KeyChannel := ⟨.empty⟩

/-- The channel after the host puts a snapshot into it. -/
def deliver (p : KeyChannel) (keys : KeySnapshot) : KeyChannel := ⟨p.slot.put keys⟩

/-- The channel after the host publishes the states of the keys, which must be sixteen. -/
def publish (p : KeyChannel) (states : List Bool) : Except Fault KeyChannel :=
  if h : states.length = 16 then .ok (p.deliver ⟨states.toArray, by simpa using h⟩)
  else .error .partialSnapshot

/-- The channel and the registers after the machine takes the newest snapshot, if there is one. -/
def update (p : KeyChannel) (r : Registers) : KeyChannel × Registers :=
  match p.slot.take with
  | (none, slot) => (⟨slot⟩, r)
  | (some keys, slot) => (⟨slot⟩, { r with keys := keys })

end KeyChannel

/-- The channel through which the machine switches the buzzer. -/
structure BuzzerChannel where
  /-- Whether the machine wants the buzzer on. -/
  playing : Bool
  slot : Latest Bool
deriving DecidableEq

namespace BuzzerChannel

/-- The channel of a machine that starts, which reports silence. -/
def initial : BuzzerChannel := ⟨false, .holding false⟩

/-- The channel after the machine wants the buzzer on. -/
def play (p : BuzzerChannel) : BuzzerChannel :=
  if p.playing then p else ⟨true, p.slot.put true⟩

/-- The channel after the machine wants the buzzer off. -/
def stop (p : BuzzerChannel) : BuzzerChannel :=
  if p.playing then ⟨false, p.slot.put false⟩ else p

/-- What the host learns, which is nothing unless the buzzer was switched since it last asked,
and the channel afterwards. -/
def poll (p : BuzzerChannel) : Option Bool × BuzzerChannel :=
  let (state, slot) := p.slot.take
  (state, { p with slot := slot })

end BuzzerChannel

end Chip8
