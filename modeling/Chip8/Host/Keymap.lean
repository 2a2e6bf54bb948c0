import Chip8.Host.Error
import Chip8.Numeral.Reading
import Chip8.Text.Split

/-!
# Keymaps

A keymap gives each of the sixteen keys of the machine the code of a key of the host. It is
written as the sixteen codes, separated by commas, in the order of the keys.
-/

namespace Chip8

/-- The codes of the host's keys in the order of the machine's keys. -/
structure Keymap where
  codes : List Int
deriving DecidableEq

namespace Keymap

/-- The keymap used if no other is given: the digits and letters of four rows of keys. -/
def defaultText : String := "120,49,50,51,113,119,101,97,115,100,122,99,52,114,102,118"

/-- Reads codes one after the other; `earlier` are those that were read before. -/
def codesFrom (earlier : List Int) : List (List Char) → Except HostError (List Int)
  | [] => .ok earlier
  | part :: parts =>
      match Numeral.decimal? (String.ofList part) with
      | none => .error .keyNotInteger
      | some code =>
          if code ∈ earlier then .error .duplicateKey
          else codesFrom (earlier ++ [code]) parts

/-- The keymap that a text denotes. -/
def ofText (s : String) : Except HostError Keymap :=
  let parts := Text.split ',' s.toList
  if parts.length = 16 then do return ⟨← codesFrom [] parts⟩ else .error .keyCount

/-- The keys with their codes in order. -/
def pairs (m : Keymap) : List (Nat × Int) := m.codes.zipIdx.map fun (code, key) => (key, code)

end Keymap

end Chip8
