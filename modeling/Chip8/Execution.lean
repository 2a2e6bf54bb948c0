import Chip8.Instruction
import Chip8.Machine

/-!
# Execution

What each instruction does to the machine. An instruction moves the program counter itself: to
the next word, past it when it skips, elsewhere when it jumps, and not at all while it waits for
a key. Where an instruction changes several parts, they change one after the other, so a fault in
between leaves the earlier changes in place.
-/

namespace Chip8

namespace Action

/-! ### Parts of the machine -/

/-- The contents of a data register. -/
def register (x : Fin 16) : Action Nat := do
  return (← get).registers.get x

/-- Stores a value in a data register. -/
def setRegister (x : Fin 16) (value : Int) : Action Unit :=
  change fun m => do return { m with registers := ← m.registers.set x value }

/-- Sets the flag or clears it. -/
def setFlag (on : Bool) : Action Unit :=
  setRegister Registers.flag (if on then 1 else 0)

/-- The program counter. -/
def programCounter : Action Nat := do
  return (← get).registers.pc.value

/-- Goes on at an address. -/
def goto (address : Int) : Action Unit :=
  change fun m => do return { m with registers := ← m.registers.writePc address }

/-- Goes on a number of bytes further. -/
def advance (bytes : Int) : Action Unit :=
  change fun m => do return { m with registers := ← m.registers.addPc bytes }

/-- Goes on at the next word. -/
def next : Action Unit := advance 2

/-- Goes on at the next word, or at the one after it if a condition holds. -/
def skipIf (condition : Bool) : Action Unit := advance (if condition then 4 else 2)

/-- The address register. -/
def index : Action Nat := do
  return (← get).registers.i.value

/-- Stores a value in the address register. -/
def setIndex (value : Int) : Action Unit :=
  change fun m => do return { m with registers := ← m.registers.writeI value }

/-- Adds to the address register. -/
def addIndex (delta : Int) : Action Unit :=
  change fun m => do return { m with registers := ← m.registers.addI delta }

/-- The byte at an address. -/
def byteAt (address : Int) : Action Nat :=
  ask fun m => m.ram.read address 1

/-- Stores a byte at an address. -/
def setByteAt (address value : Int) : Action Unit :=
  change fun m => do return { m with ram := ← m.ram.write address value }

/-- Whether the key of a number is held down. -/
def keyDown (key : Int) : Action Bool :=
  ask fun m => m.registers.keyState key

/-! ### Sprites -/

/-- Switches a pixel, and tells whether it was on. -/
def flipPixel (x y : Int) : Action Bool :=
  exchange fun m => do
    let (hit, screen) ← m.screen.flip x y
    return (hit, { m with screen := screen })

/-- Switches the pixels in the given columns of a sprite's row that the bits of a byte select,
the highest bit for column zero, and tells whether one of them was on. -/
def drawRow (x y byte : Nat) : List Nat → Action Bool
  | [] => return false
  | column :: columns => do
      let hit ← if byte.testBit (7 - column) then flipPixel (x + column) y else pure false
      let hits ← drawRow x y byte columns
      return hit || hits

/-- Draws the given rows of the sprite at an address, and tells whether a pixel was switched
off. -/
def drawRows (x y address : Nat) : List Nat → Action Bool
  | [] => return false
  | row :: rows => do
      let byte ← byteAt (address + row)
      let hit ← drawRow x (y + row) byte (List.range 8)
      let hits ← drawRows x y address rows
      return hit || hits

/-- Draws a sprite of `n` rows where two registers tell, with the flag cleared before it is drawn
and set afterwards if a pixel was switched off. -/
def drawSprite (x y : Fin 16) (n : Nat) : Action Unit := do
  let column ← register x
  let row ← register y
  let address ← index
  setFlag false
  let hit ← drawRows column row address (List.range n)
  setFlag hit
  modify fun m => { m with screen := m.screen.requestRedraw }

/-! ### Rows of registers -/

/-- The registers up to a given one. -/
def registersTo (x : Fin 16) : List (Fin 16) := (List.finRange 16).take (x.val + 1)

/-- Stores registers where the address register points, which moves on with each. -/
def storeRegisters : List (Fin 16) → Action Unit
  | [] => return ()
  | x :: xs => do
      setByteAt (← index) (← register x)
      addIndex 1
      storeRegisters xs

/-- Loads registers from where the address register points, which moves on with each. -/
def loadRegisters : List (Fin 16) → Action Unit
  | [] => return ()
  | x :: xs => do
      setRegister x (← byteAt (← index))
      addIndex 1
      loadRegisters xs

/-! ### Arithmetic -/

/-- Stores a result in a register and then the flag, so the flag prevails when the register is
the flag register. -/
def setWithFlag (x : Fin 16) (result : Int) (on : Bool) : Action Unit := do
  setRegister x result
  setFlag on

/-- Combines two registers into the first of them, and goes on. -/
def combine (f : Nat → Nat → Nat) (x y : Fin 16) : Action Unit := do
  setRegister x (f (← register x) (← register y))
  next

/-! ### Instructions -/

/-- What an instruction does with the fields of its word. -/
def execute (i : Instruction) (op : Opcode) : Action Unit :=
  match i with
  | .clearScreen => do
      modify fun m => { m with screen := m.screen.clear.requestRedraw }
      next
  | .ret => do
      let caller ← exchange fun m => do
        let (entry, stack) ← m.stack.pop
        return (entry, { m with stack := stack })
      goto caller
      advance 2
  | .jump => goto op.nnn
  | .call => do
      let here ← programCounter
      change fun m => do return { m with stack := ← m.stack.push here }
      goto op.nnn
  | .skipIfByte => do skipIf ((← register op.x) == op.kk)
  | .skipUnlessByte => do skipIf ((← register op.x) != op.kk)
  | .skipIfEqual => do skipIf ((← register op.x) == (← register op.y))
  | .loadByte => do
      setRegister op.x op.kk
      next
  | .addByte => do
      setRegister op.x ((((← register op.x) + op.kk) % 256 : Nat))
      next
  | .copy => combine (fun _ b => b) op.x op.y
  | .or => combine (· ||| ·) op.x op.y
  | .and => combine (· &&& ·) op.x op.y
  | .xor => combine (· ^^^ ·) op.x op.y
  | .add => do
      let sum := (← register op.x) + (← register op.y)
      setWithFlag op.x (sum % 256 : Nat) (255 < sum)
      next
  | .subtract => do
      let a ← register op.x
      let b ← register op.y
      setWithFlag op.x (((a : Int) - b) % 256) (b ≤ a)
      next
  | .shiftRight => do
      let b ← register op.y
      setWithFlag op.x (b / 2 : Nat) (b % 2 == 1)
      next
  | .subtractFrom => do
      let a ← register op.x
      let b ← register op.y
      setWithFlag op.x (((b : Int) - a) % 256) (a ≤ b)
      next
  | .shiftLeft => do
      let b ← register op.y
      setWithFlag op.x (2 * b % 256 : Nat) (128 ≤ b)
      next
  | .skipUnlessEqual => do skipIf ((← register op.x) != (← register op.y))
  | .loadIndex => do
      setIndex op.nnn
      next
  | .jumpOffset => do goto (op.nnn + (← register Registers.first) : Nat)
  | .random => do
      let number ← Machine.randomNumber
      setRegister op.x ((number % 256).toNat &&& op.kk : Nat)
      next
  | .draw => do
      drawSprite op.x op.y op.n
      next
  | .skipIfKey => do skipIf (← keyDown (← register op.x))
  | .skipUnlessKey => do skipIf !(← keyDown (← register op.x))
  | .loadDelay => do
      setRegister op.x (← get).delay.value
      next
  | .awaitKey => do
      match (← get).registers.pressedKey with
      | none => modify fun m => { m with awaiting := some op.x }
      | some key => do
          setRegister op.x key.val
          modify fun m => { m with awaiting := none }
          next
  | .setDelay => do
      let value ← register op.x
      change fun m => do return { m with delay := ← m.delay.write value }
      next
  | .setSound => do
      let value ← register op.x
      change fun m => do return { m with sound := ← m.sound.write value }
      next
  | .addIndex => do
      addIndex (← register op.x)
      next
  | .pointGlyph => do
      setIndex (fontStart + (← register op.x) * glyphRows : Nat)
      next
  | .storeDigits => do
      let value ← register op.x
      let address ← index
      setByteAt address (value / 100 : Nat)
      setByteAt (address + 1 : Nat) (value / 10 % 10 : Nat)
      setByteAt (address + 2 : Nat) (value % 10 : Nat)
      next
  | .storeRegisters => do
      storeRegisters (registersTo op.x)
      next
  | .loadRegisters => do
      loadRegisters (registersTo op.x)
      next

end Action

end Chip8
