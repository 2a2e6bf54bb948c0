import Chip8.Numeral.Power

/-!
# Digests of 512 bits

The SHA-512 digest of a row of bytes. The bytes are filled up to whole blocks of sixteen 64-bit
words, a block is spread into a schedule of eighty words, and each word of the schedule makes one
round over the eight working words. The constants are the first 64 bits of the fractions of
square and cube roots of the first primes.
-/

namespace Chip8.Digest

/-! ### Constants -/

/-- The greatest number below `2 ^ 68` whose `k`-th power is not above `n`. -/
def root (k n : Nat) : Nat :=
  (List.range 68).foldr
    (fun i r => if Nat.pow (r + twoPow i) k ≤ n then r + twoPow i else r) 0

/-- The first eighty primes. -/
def primes : List Nat :=
  (List.range 410).filter fun p => 2 ≤ p && (List.range p).all fun d => d < 2 || p % d != 0

/-- The first 64 bits of the fraction of the `k`-th root of a number. -/
def fraction (k n : Nat) : UInt64 := (root k (n * twoPow (64 * k))).toUInt64

/-- The constants of the rounds. -/
def roundConstants : List UInt64 := primes.map (fraction 3)

/-! ### Rounds -/

/-- The eight working words. -/
structure Working where
  a : UInt64
  b : UInt64
  c : UInt64
  d : UInt64
  e : UInt64
  f : UInt64
  g : UInt64
  h : UInt64
deriving DecidableEq

/-- The words in order. -/
def Working.words (w : Working) : List UInt64 := [w.a, w.b, w.c, w.d, w.e, w.f, w.g, w.h]

/-- The words before the first block. -/
def Working.initial : Working where
  a := fraction 2 2
  b := fraction 2 3
  c := fraction 2 5
  d := fraction 2 7
  e := fraction 2 11
  f := fraction 2 13
  g := fraction 2 17
  h := fraction 2 19

/-- The words of two rows added one by one. -/
def Working.add (v w : Working) : Working :=
  ⟨v.a + w.a, v.b + w.b, v.c + w.c, v.d + w.d, v.e + w.e, v.f + w.f, v.g + w.g, v.h + w.h⟩

/-- A word turned to the right by `k` places, where `k` lies between zero and its width. -/
def turn (k : UInt64) (w : UInt64) : UInt64 := (w >>> k) ||| (w <<< (64 - k))

/-- One round with a word of the schedule and its constant. -/
def round (w : Working) (word constant : UInt64) : Working :=
  let mixed := turn 14 w.e ^^^ turn 18 w.e ^^^ turn 41 w.e
  let chosen := (w.e &&& w.f) ^^^ ((w.e ^^^ 0xffffffffffffffff) &&& w.g)
  let first := w.h + mixed + chosen + constant + word
  let spread := turn 28 w.a ^^^ turn 34 w.a ^^^ turn 39 w.a
  let majority := (w.a &&& w.b) ^^^ (w.a &&& w.c) ^^^ (w.b &&& w.c)
  ⟨first + (spread + majority), w.a, w.b, w.c, w.d + first, w.e, w.f, w.g⟩

/-! ### Blocks -/

/-- The schedule with its next word, which is made of four earlier ones. -/
def extend (schedule : Array UInt64) : Array UInt64 :=
  let earlier := fun k => schedule.getD (schedule.size - k) 0
  let near := earlier 2
  let far := earlier 15
  schedule.push
    (earlier 16 + (turn 1 far ^^^ turn 8 far ^^^ (far >>> 7)) + earlier 7 +
      (turn 19 near ^^^ turn 61 near ^^^ (near >>> 6)))

/-- The schedule with `count` further words. -/
def extendBy : Nat → Array UInt64 → Array UInt64
  | 0, schedule => schedule
  | count + 1, schedule => extendBy count (extend schedule)

/-- The working words after a block of sixteen words. -/
def absorb (w : Working) (block : List UInt64) : Working :=
  let schedule := (extendBy 64 block.toArray).toList
  w.add ((schedule.zip roundConstants).foldl (fun v (word, constant) => round v word constant) w)

/-- The bytes of a number, `count` of them, most significant first. -/
def bytesOf (n : Nat) : Nat → List UInt8
  | 0 => []
  | count + 1 => bytesOf (n / 256) count ++ [(n % 256).toUInt8]

/-- The number that bytes stand for, most significant first. -/
def numberOf (bytes : List UInt8) : Nat := bytes.foldl (fun n b => n * 256 + b.toNat) 0

/-- The bytes followed by a mark, by zeros and by their number of bits, in whole blocks. -/
def fill (bytes : List UInt8) : List UInt8 :=
  let zeros := (239 - bytes.length % 128) % 128
  bytes ++ [0x80] ++ List.replicate zeros 0 ++ bytesOf (8 * bytes.length) 16

/-- The first `count` rows of `size` elements. -/
def rows {α : Type} (size : Nat) : Nat → List α → List (List α)
  | 0, _ => []
  | count + 1, xs => xs.take size :: rows size count (xs.drop size)

/-- The words of filled bytes. -/
def wordsOf (bytes : List UInt8) : List UInt64 :=
  (rows 8 (bytes.length / 8) bytes).map fun row => (numberOf row).toUInt64

/-- The digest of a row of bytes. -/
def ofBytes (bytes : List UInt8) : List UInt8 :=
  let words := wordsOf (fill bytes)
  let w := (rows 16 (words.length / 16) words).foldl absorb .initial
  w.words.flatMap fun word => bytesOf word.toNat 8

/-! ### Lengths -/

end Chip8.Digest
