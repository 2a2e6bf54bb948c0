/-!
# Latest-value slots

The machine and its host exchange frames, keys and the state of the buzzer through slots that
hold the newest value only. A value is delivered at most once; one that was not taken is replaced
by the next.
-/

namespace Chip8

/-- A slot with the newest value put into it, which is fresh until it is taken. -/
structure Latest (α : Type) where
  value : Option α
  fresh : Bool
deriving DecidableEq

namespace Latest

variable {α : Type}

/-- The slot into which nothing was put. -/
def empty : Latest α := ⟨none, false⟩

/-- The slot with a first value. -/
def holding (a : α) : Latest α := ⟨some a, true⟩

/-- The slot after a value is put into it. -/
def put (_ : Latest α) (a : α) : Latest α := ⟨some a, true⟩

/-- The value that was put since the last one was taken, if any, and the slot without it. -/
def take (s : Latest α) : Option α × Latest α :=
  if s.fresh then (s.value, { s with fresh := false }) else (none, s)

end Latest

end Chip8
