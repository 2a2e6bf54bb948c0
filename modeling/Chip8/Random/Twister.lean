/-!
# The Mersenne twister

A generator of 32-bit words with a state of 624 words. The words are renewed together after 624
of them were given out, each from itself, its successor and the word 397 places on, and a word is
tempered when it is given out. A seed is an integer of any size; its sign is ignored and its
32-bit words, least significant first, are mixed into the state.
-/

namespace Chip8

/-- The state of the generator: its words, and how many of them were given out since they were
renewed. -/
structure Twister where
  words : Array UInt32
  used : Nat
deriving DecidableEq

namespace Twister

/-- The number of words of the state. -/
def size : Nat := 624

/-- How far on the word lies that a renewed word is combined with. -/
def offset : Nat := 397

/-! ### Seeding -/

/-- The mixture of a word with its higher bits. -/
def spread (w : UInt32) : UInt32 := w ^^^ (w >>> 30)

/-- The words that continue a row of `i` words which ends in `w`, until there are `i + count`. -/
def grow (w : UInt32) (i : Nat) : Nat → List UInt32
  | 0 => []
  | count + 1 =>
      let next := 1812433253 * spread w + i.toUInt32
      next :: grow next (i + 1) count

/-- The state grown from one word. -/
def ofWord (w : UInt32) : Array UInt32 := (w :: grow w 1 (size - 1)).toArray

/-- The 32-bit words of a number, least significant first; zero has the one word zero. -/
def wordsOf (n : Nat) : List UInt32 :=
  if n < 0x100000000 then [n.toUInt32]
  else (n % 0x100000000).toUInt32 :: wordsOf (n / 0x100000000)

/-- Stores a word at place `i`, and at place zero also the last word, so that the places after
the first are gone through again. -/
def storeAround (words : Array UInt32) (i : Nat) (w : UInt32) : Array UInt32 × Nat :=
  let words := words.setIfInBounds i w
  if i + 1 < size then (words, i + 1) else (words.setIfInBounds 0 w, 1)

/-- Mixes the words of a key into the state, starting at place `i` with the `j`-th word of the
key, in the given number of steps. -/
def mixKey (key : Array UInt32) : Nat → Array UInt32 → Nat → Nat → Array UInt32 × Nat
  | 0, words, i, _ => (words, i)
  | steps + 1, words, i, j =>
      let w := (words.getD i 0 ^^^ (spread (words.getD (i - 1) 0) * 1664525)) + key.getD j 0 +
        j.toUInt32
      let (words, i) := storeAround words i w
      mixKey key steps words i (if j + 1 < key.size then j + 1 else 0)

/-- Mixes the state with itself, starting at place `i`, in the given number of steps. -/
def mixSelf : Nat → Array UInt32 → Nat → Array UInt32
  | 0, words, _ => words
  | steps + 1, words, i =>
      let w := (words.getD i 0 ^^^ (spread (words.getD (i - 1) 0) * 1566083941)) - i.toUInt32
      let (words, i) := storeAround words i w
      mixSelf steps words i

/-- The generator with a given seed. -/
def ofSeed (seed : Int) : Twister :=
  let key := (wordsOf seed.natAbs).toArray
  let (words, i) := mixKey key (max size key.size) (ofWord 19650218) 1 0
  ⟨(mixSelf (size - 1) words i).setIfInBounds 0 0x80000000, size⟩

/-! ### Words -/

/-- The word that takes the place of `w`, given its successor and the word further on. -/
def renewed (w successor further : UInt32) : UInt32 :=
  let joined := (w &&& 0x80000000) ||| (successor &&& 0x7fffffff)
  further ^^^ (joined >>> 1) ^^^ (if joined &&& 1 = 0 then 0 else 0x9908b0df)

/-- Renews the last words of the state, of which `count` are left. -/
def renewFrom : Nat → Array UInt32 → Array UInt32
  | 0, words => words
  | count + 1, words =>
      let i := size - (count + 1)
      let w := renewed (words.getD i 0) (words.getD ((i + 1) % size) 0)
        (words.getD ((i + offset) % size) 0)
      renewFrom count (words.setIfInBounds i w)

/-- A word of the state as it is given out. -/
def temper (w : UInt32) : UInt32 :=
  let w := w ^^^ (w >>> 11)
  let w := w ^^^ ((w <<< 7) &&& 0x9d2c5680)
  let w := w ^^^ ((w <<< 15) &&& 0xefc60000)
  w ^^^ (w >>> 18)

/-- The next word, and the generator after it. -/
def next (t : Twister) : UInt32 × Twister :=
  let t := if t.used < size then t else ⟨renewFrom size t.words, 0⟩
  (temper (t.words.getD t.used 0), { t with used := t.used + 1 })

end Twister

end Chip8
