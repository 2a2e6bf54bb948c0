import Chip8.Fault
import Chip8.Mnemonic
import Chip8.Numeral.Bits

/-!
# Dispatch tables

An instruction has all words that agree with its pattern on the bits of its mask. A table of
instructions is built only if no word belongs to two of them, so a word that is found belongs to
the one instruction that has it. The entries are grouped by their masks, in the order in which the
masks are first used, and a group is searched for the pattern which the mask leaves of a word.
-/

namespace Chip8

/-- The words that have the bits of a pattern at the places of a mask. -/
structure Matcher where
  mask : Int
  pattern : Int
deriving DecidableEq

namespace Matcher

/-- Whether a word belongs to a matcher. -/
def accepts (m : Matcher) (word : Int) : Bool := Bits.and word m.mask == m.pattern

/-- Whether the patterns of two matchers agree on all bits that both of them test. -/
def overlaps (a b : Matcher) : Bool :=
  Bits.and (Bits.and (Bits.xor a.pattern b.pattern) a.mask) b.mask == 0

/-- Whether a pattern has no bits outside the mask. -/
def proper (m : Matcher) : Bool := Bits.and m.pattern (Bits.not m.mask) == 0

end Matcher

/-- An instruction of a table: its name, its words, its mnemonic, and what it means. -/
structure Entry (α : Type) where
  name : String
  matcher : Matcher
  mnemonic : Mnemonic
  meaning : α
deriving DecidableEq

/-- The reasons for which a list of entries is no table. -/
inductive Conflict where
  /-- The pattern of an entry has bits outside its mask. -/
  | improper (name : String)
  /-- An entry shares words with an earlier one. -/
  | overlap (name earlier : String)
deriving DecidableEq

/-- The text in which a conflict is reported. -/
def Conflict.message : Conflict → String
  | .improper name => s!"{name} pattern has bits outside its mask"
  | .overlap name earlier => s!"{name} overlaps {earlier}"

/-- A dispatch table. -/
structure Table (α : Type) where
  /-- The entries in order. -/
  entries : List (Entry α)
  /-- The masks in order of first use, each with its entries. -/
  groups : List (Int × List (Entry α))

namespace Table

variable {α : Type}

/-- The table without entries. -/
def empty : Table α := ⟨[], []⟩

/-- Groups with an entry added to the group of its mask, which is a new one at the end if the mask
was not used before. -/
def addToGroups (e : Entry α) : List (Int × List (Entry α)) → List (Int × List (Entry α))
  | [] => [(e.matcher.mask, [e])]
  | (mask, es) :: groups =>
      if mask = e.matcher.mask then (mask, es ++ [e]) :: groups
      else (mask, es) :: addToGroups e groups

/-- The table with a further entry, which must not share a word with an earlier one. -/
def add (t : Table α) (e : Entry α) : Except Conflict (Table α) :=
  if !e.matcher.proper then .error (.improper e.name)
  else
    match t.entries.find? fun earlier => e.matcher.overlaps earlier.matcher with
    | some earlier => .error (.overlap e.name earlier.name)
    | none => .ok ⟨t.entries ++ [e], addToGroups e t.groups⟩

/-- The table of a list of entries. -/
def ofList (entries : List (Entry α)) : Except Conflict (Table α) :=
  entries.foldlM add empty

/-- The entry of a group that has a word. -/
def findInGroup (word : Int) (group : Int × List (Entry α)) : Option (Entry α) :=
  group.2.find? fun e => e.matcher.pattern == Bits.and word group.1

/-- The entry that has a word. -/
def find? (t : Table α) (word : Int) : Option (Entry α) :=
  t.groups.findSome? (findInGroup word)

/-- The entry that has a word, or the fault that there is none. -/
def lookup (t : Table α) (word : Int) : Except Fault (Entry α) :=
  match t.find? word with
  | some e => .ok e
  | none => .error (.unknownWord word)

end Table

end Chip8
