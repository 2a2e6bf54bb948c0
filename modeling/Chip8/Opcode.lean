/-!
# Opcodes

An instruction is one word of two bytes. Its operands stand at fixed places of the word, so a
word is divided into fields before it is known which of them the instruction uses. Only the
lowest sixteen bits of a word carry fields.
-/

namespace Chip8

/-- A word with its fields. -/
structure Opcode where
  word : Int
  /-- The register of the second nibble. -/
  x : Fin 16
  /-- The register of the third nibble. -/
  y : Fin 16
  /-- The last nibble. -/
  n : Nat
  /-- The last byte. -/
  kk : Nat
  /-- The last twelve bits. -/
  nnn : Nat
deriving DecidableEq

namespace Opcode

/-- The fields of a word. -/
def ofWord (word : Int) : Opcode :=
  let low := (word % 65536).toNat
  { word
    x := ⟨low / 256 % 16, by omega⟩
    y := ⟨low / 16 % 16, by omega⟩
    n := low % 16
    kk := low % 256
    nnn := low % 4096 }

/-! ### Ranges of the fields -/

theorem n_lt (word : Int) :
  (ofWord word).n < 16
  := Nat.mod_lt _ (by decide)

theorem kk_lt (word : Int) :
  (ofWord word).kk < 256
  := Nat.mod_lt _ (by decide)

theorem nnn_lt (word : Int) :
  (ofWord word).nnn < 4096
  := Nat.mod_lt _ (by decide)

end Opcode

end Chip8
