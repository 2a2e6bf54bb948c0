import Chip8.Random.Twister

/-!
# Random bytes

Random numbers come from a source which is given to the machine, so a run can be repeated. A
source either draws bytes from a seeded generator or goes round a list of given numbers.
-/

namespace Chip8

/-- A source of random numbers. -/
inductive RandomSource where
  /-- Bytes drawn from a generator. -/
  | generator (state : Twister)
  /-- The numbers of a list in turn, of which `used` were given out. -/
  | script (numbers : List Int) (used : Nat)
deriving DecidableEq

namespace RandomSource

/-- The source of a seed. -/
def ofSeed (seed : Int) : RandomSource := .generator (.ofSeed seed)

/-- The source that goes round a list of numbers. -/
def ofList (numbers : List Int) : RandomSource := .script numbers 0

/-- How many words are drawn for a byte before zero is taken. Half of the words are refused, and
no state of the generator refuses nearly as many in a row. -/
def maxDraws : Nat := 100000

/-- A byte from the nine highest bits of a word, drawn again while they exceed a byte. -/
def drawByte : Nat → Twister → Nat × Twister
  | 0, t => (0, t)
  | fuel + 1, t =>
      let (w, t) := t.next
      let n := (w >>> 23).toNat
      if n < 256 then (n, t) else drawByte fuel t

/-- The next random number, and the source after it. -/
def next : RandomSource → Int × RandomSource
  | .generator t =>
      let (n, t) := drawByte maxDraws t
      (n, .generator t)
  | .script numbers used => (numbers.getD (used % numbers.length) 0, .script numbers (used + 1))

/-! ### Range -/

end RandomSource

end Chip8
