import Chip8.CallStack
import Chip8.Screen
import Chip8.Random.Source
import Chip8.Registers

/-!
# The machine

The state that a program can see and change, and the actions on it. An action may fail, and what
it changed before it failed remains changed, so the outcome of an action is its result or its
fault together with the state it leaves.

Booting forgets everything but the random source and the display slot: it puts the font at the
bottom of the memory and the program where programs start.
-/

namespace Chip8

/-- The state of a machine. -/
structure Machine where
  ram : Memory .ram
  screen : Screen .standard
  registers : Registers
  stack : CallStack 16 16
  delay : Timer "DT"
  sound : Timer "ST"
  random : RandomSource
  /-- The register that waits for the number of a key. -/
  awaiting : Option (Fin 16)
deriving DecidableEq

/-- An action on the machine, which yields a result or a fault, and the state it leaves. -/
abbrev Action := EStateM Fault Machine

namespace Action

/-- Asks for something that the machine may refuse. -/
def ask {α : Type} (f : Machine → Except Fault α) : Action α := fun m =>
  match f m with
  | .ok a => .ok a m
  | .error e => .error e m

/-- Changes the machine in a way that it may refuse. -/
def change (f : Machine → Except Fault Machine) : Action Unit := fun m =>
  match f m with
  | .ok m' => .ok () m'
  | .error e => .error e m

/-- Changes the machine and yields a result, both of which it may refuse. -/
def exchange {α : Type} (f : Machine → Except Fault (α × Machine)) : Action α := fun m =>
  match f m with
  | .ok (a, m') => .ok a m'
  | .error e => .error e m

end Action

/-! ### The font -/

/-- The address of the first glyph. -/
def fontStart : Nat := 0

/-- The number of rows of a glyph. -/
def glyphRows : Nat := 5

/-- The glyphs of the sixteen hexadecimal digits, a byte for each row. -/
def font : List Nat :=
  [0xf0, 0x90, 0x90, 0x90, 0xf0,
    0x20, 0x60, 0x20, 0x20, 0x70,
    0xf0, 0x10, 0xf0, 0x80, 0xf0,
    0xf0, 0x10, 0xf0, 0x10, 0xf0,
    0x90, 0x90, 0xf0, 0x10, 0x10,
    0xf0, 0x80, 0xf0, 0x10, 0xf0,
    0xf0, 0x80, 0xf0, 0x90, 0xf0,
    0xf0, 0x10, 0x20, 0x40, 0x40,
    0xf0, 0x90, 0xf0, 0x90, 0xf0,
    0xf0, 0x90, 0xf0, 0x10, 0xf0,
    0xf0, 0x90, 0xf0, 0x90, 0x90,
    0xe0, 0x90, 0xe0, 0x90, 0xe0,
    0xf0, 0x80, 0x80, 0x80, 0xf0,
    0xe0, 0x90, 0x90, 0x90, 0xe0,
    0xf0, 0x80, 0xf0, 0x80, 0xf0,
    0xf0, 0x80, 0xf0, 0x80, 0x80]

namespace Machine

/-- A machine that was not booted yet. -/
def initial (random : RandomSource) : Machine where
  ram := .zeros
  screen := .blank
  registers := .initial
  stack := .empty
  delay := .zero
  sound := .zero
  random := random
  awaiting := none

/-- The machine with its state erased and the font in place, and a redraw scheduled. -/
def reset (m : Machine) : Machine :=
  { m with
    ram := Memory.zeros.store fontStart font
    screen := m.screen.clear.requestRedraw
    registers := .initial
    stack := .empty
    delay := .zero
    sound := .zero
    awaiting := none }

/-- Resets the machine and loads a program. A program that does not fit is refused after the
reset, and then no byte of it is loaded. -/
def boot (rom : List UInt8) : Action Unit := do
  modify reset
  Action.change fun m => do
    return { m with ram := ← m.ram.writeBytes programStart (rom.map (·.toNat)) }

/-- Draws the next random number. -/
def randomNumber : Action Int := fun m =>
  let (n, random) := m.random.next
  .ok n { m with random := random }

/-- The word at the program counter. -/
def fetch : Action Nat :=
  Action.ask fun m => m.ram.read m.registers.pc.value 2

end Machine

end Chip8
