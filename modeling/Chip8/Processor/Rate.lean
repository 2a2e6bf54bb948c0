import Chip8.Fault
import Chip8.Numeral.Floating

/-!
# Rates

The processor makes a number of ticks per second, which need not be an integer. The time between
two ticks is the reciprocal of the rate, taken in the 64-bit binary format.
-/

namespace Chip8

/-- A number of ticks per second. -/
inductive Rate where
  | integer (n : Int)
  | floating (x : Floating)
deriving DecidableEq

namespace Rate

/-- The ticks per second at which the timers run at their usual speed. -/
def usual : Int := 60

/-- The time between ticks in seconds. At a rate of zero or below the ticks follow each other at
once. An integer must not be too large for the format. -/
def interval : Rate → Except Fault (Option Floating)
  | integer n =>
      if n ≤ 0 then .ok none
      else
        match Binary64.ofNat? n.toNat with
        | none => .error (.rateTooLarge n)
        | some r => .ok (some (Floating.finite false r).reciprocal)
  | floating x =>
      if x.exceeds 0 ∨ x = .undefined then .ok (some x.reciprocal) else .ok none

end Rate

end Chip8
