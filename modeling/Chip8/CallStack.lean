import Chip8.Cell

/-!
# The call stack

Return addresses are kept apart from the program memory, on a stack of fixed depth whose entries
have a width of their own.
-/

namespace Chip8

/-- A stack of at most `depth` entries of `itemBits` bits, newest entry first. -/
structure CallStack (depth itemBits : Int) where
  newestFirst : List Nat
deriving DecidableEq

namespace CallStack

variable {depth itemBits : Int}

/-- The stack without entries. -/
def empty : CallStack depth itemBits := ⟨[]⟩

/-- The entries of a stack, oldest first. -/
def entries (s : CallStack depth itemBits) : List Nat := s.newestFirst.reverse

/-- The stack with an entry pushed on it; a full stack takes none, whatever its width. -/
def push (s : CallStack depth itemBits) (entry : Int) :
    Except Fault (CallStack depth itemBits) :=
  if depth ≤ s.newestFirst.length then .error .stackOverflow
  else do return ⟨(← fit "Stack" itemBits entry) :: s.newestFirst⟩

/-- The newest entry, and the stack without it. -/
def pop (s : CallStack depth itemBits) : Except Fault (Nat × CallStack depth itemBits) :=
  match s.newestFirst with
  | [] => .error .stackUnderflow
  | entry :: rest => .ok (entry, ⟨rest⟩)

end CallStack

end Chip8
