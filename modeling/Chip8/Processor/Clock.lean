import Chip8.Numeral.Floating

/-!
# Clocks

Ticks that are paced have a time slot each. A clock measures how long a tick took, and what is left
of its slot is waited for before the next tick is made; time that a tick took beyond its slot is not
made up for. No clock waits arbitrarily long, but each waits for a second.
-/

namespace Chip8

/-- What the time tells a processor. -/
structure Clock where
  /-- The seconds that a tick took, by the number of ticks that were completed with it. -/
  took : Nat → Binary64
  /-- The most seconds that can be waited for. -/
  longest : Nat
  /-- A second can always be waited for. -/
  patient : 1 ≤ longest

namespace Clock

/-- A clock on which no tick takes any time. -/
def instant : Clock := ⟨fun _ => ⟨0, Binary64.minExponent⟩, 9223372036, by decide⟩

/-- The seconds which a tick leaves of its slot. -/
def rest (k : Clock) (tick : Nat) (slot : Floating) : Floating := slot.minus (k.took tick)

/-- Whether what a tick leaves of its slot can be waited for. After a tick that took the whole slot
nothing is waited for. -/
def canWait (k : Clock) (tick : Nat) (slot : Floating) : Bool :=
  !((k.rest tick slot).exceeds 0 && (k.rest tick slot).exceeds k.longest)

end Clock

end Chip8
