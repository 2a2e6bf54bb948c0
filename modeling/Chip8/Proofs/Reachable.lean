import Chip8.Proofs.Tick

/-!
# Reachable states

A processor is started by booting its machine with a program, and then it serves requests: steps,
ticks, and snapshots of the keys that the host publishes. A request may fail, and the state that it
leaves is reached as well. All reachable machines are within their bounds (`Reachable.inBounds`), so
the width checks of all parts but the address register never refuse anything.
-/

namespace Chip8

/-! ### Booting -/

namespace Machine

/-- The number of bytes of the largest program. -/
def programRoom : Nat := 3584

/-- The machine that was booted with a program. -/
def booted (m : Machine) (rom : List UInt8) : Machine :=
  { m.reset with ram := m.reset.ram.store programStart (rom.map fun b => b.toNat) }

theorem rom_le (rom : List UInt8) :
  ∀ v ∈ rom.map fun b => b.toNat, v ≤ 0xff
  := by
  intro v hv
  obtain ⟨b, -, rfl⟩ := List.mem_map.mp hv
  apply Nat.le_of_lt_succ b.toNat_lt

/-- A program is loaded if there is room for it. -/
theorem boot_eq_ok (m : Machine) {rom : List UInt8} (short : rom.length ≤ programRoom) :
  boot rom m = .ok () (m.booted rom)
  := by
  have small : ∀ v ∈ rom.map fun b => b.toNat, v < 256 := by
    intro v hv
    apply Nat.lt_succ_of_le (rom_le rom v hv)
  have inside : programStart + (rom.map fun b => b.toNat).length ≤ Bank.ram.size := by
    rw [List.length_map]
    exact Nat.add_le_add_left short programStart
  have loaded := @Memory.writeBytes_eq_ok _ m.reset.ram _ 8 _ rfl inside small small
  rw [List.map_map] at loaded
  rw [boot, bind_of_ok (modify_apply reset m)]
  apply Action.change_eq_ok
  apply Eq.trans (congrArg (· >>= _) loaded)
  rfl

theorem booted_inBounds (m : Machine) (rom : List UInt8) :
  (m.booted rom).InBounds
  := by
  have font : ∀ k, m.reset.ram.get k ≤ 0xff := by
    apply Memory.get_store_le
    · intro k
      rw [Memory.get_zeros]
      apply Nat.zero_le
    · decide
  have data : ∀ x, Registers.initial.get x ≤ 0xff := by decide
  have start : programStart ≤ 0x10fe := by decide
  constructor
  · exact data
  · apply Nat.zero_le
  · exact start
  · apply Memory.get_store_le _ font (rom_le rom)
  · intro k
    apply Nat.le_trans (Nat.le_of_eq (Memory.get_zeros k)) (Nat.zero_le 1)
  · apply Nat.zero_le
  · apply Nat.zero_le
  · apply Nat.zero_le
  · intro a ha
    cases ha

end Machine

/-! ### Requests -/

/-- What a processor is asked to do after its machine was booted. -/
inductive Request where
  /-- To fetch and execute an instruction. -/
  | step
  /-- To make a tick. -/
  | tick
  /-- To accept the states of the keys from the host. -/
  | publish (states : List Bool)
deriving DecidableEq

/-- The state which an action leaves, be it successful or not. -/
def left {ε σ α : Type} : EStateM.Result ε σ α → σ
  | .ok _ s => s
  | .error _ s => s

namespace Processor

/-- Puts the states of the keys into the key channel. -/
def publish (states : List Bool) : ProcessorAction Unit := fun c =>
  match c.keyChannel.publish states with
  | .ok channel => .ok () { c with keyChannel := channel }
  | .error e => .error e c

/-- What the processor does for a request. -/
def serve : Request → ProcessorAction Unit
  | .step => step
  | .tick => tick
  | .publish states => publish states

/-- The processor after a request. -/
def after (c : Processor) (r : Request) : Processor := left (c.serve r)

/-- The processor after a row of requests. -/
def play (c : Processor) (rs : List Request) : Processor := rs.foldl after c

/-- The processor after its machine was booted with a program. -/
def booted (c : Processor) (rom : List UInt8) : Processor :=
  left (onMachine (Machine.boot rom) c)

/-- The processor of a machine that was not booted yet, which makes ticks at once. -/
def idle (random : RandomSource) : Processor where
  machine := .initial random
  keyChannel := .empty
  buzzerChannel := .initial
  live := false
  interval := none
  clock := .instant
  stopRequested := false
  progress := ⟨0, none, none⟩
  ticks := 0
  journal := #[]

/-- The processors that are reached by booting a program for which there is room, and by serving
requests. -/
inductive Reachable : Processor → Prop where
  | boot (c : Processor) (rom : List UInt8) (short : rom.length ≤ Machine.programRoom) :
      Reachable (c.booted rom)
  | serve {c : Processor} (h : Reachable c) (r : Request) :
      Reachable (c.after r)

theorem Reachable.play {c : Processor} (h : Reachable c) (rs : List Request) :
  Reachable (c.play rs)
  := by
  induction rs generalizing c with
  | nil => apply h
  | cons r rs ih => apply ih (h.serve r)

/-! ### Effects of requests -/

theorem booted_eq (c : Processor) {rom : List UInt8} (short : rom.length ≤ Machine.programRoom) :
  c.booted rom = { c with machine := c.machine.booted rom }
  := by
  rw [booted, onMachine_of_ok (c.machine.boot_eq_ok short), left]

theorem after_step {c : Processor} (h : c.machine.InBounds) :
  c.after .step = c.stepped
  := by
  show left c.step = _
  rw [step_eq h]
  cases c.machine.fault? with
  | none => rfl
  | some e => rfl

theorem after_tick {c : Processor} (h : c.machine.InBounds) :
  c.after .tick = if c.machine.fault? = none then c.stepped.served else c.stepped
  := by
  show left c.tick = _
  rw [tick_eq h]
  cases c.machine.fault? with
  | none => rfl
  | some e => rfl

theorem after_publish (c : Processor) (states : List Bool) :
  (c.after (.publish states)).machine = c.machine
  := by
  show (left (c.publish states)).machine = c.machine
  rw [publish]
  cases c.keyChannel.publish states with
  | ok channel => rfl
  | error e => rfl

/-! ### Bounds -/

theorem after_inBounds {c : Processor} (h : c.machine.InBounds) (r : Request) :
  (c.after r).machine.InBounds
  := by
  cases r with
  | step =>
      rw [after_step h]
      apply stepped_inBounds h
  | tick =>
      rw [after_tick h]
      split
      · apply served_inBounds (stepped_inBounds h)
      · apply stepped_inBounds h
  | publish states =>
      rw [after_publish]
      apply h

theorem play_inBounds {c : Processor} (h : c.machine.InBounds) (rs : List Request) :
  (c.play rs).machine.InBounds
  := by
  induction rs generalizing c with
  | nil => apply h
  | cons r rs ih => apply ih (after_inBounds h r)

theorem Reachable.inBounds {c : Processor} (h : Reachable c) :
  c.machine.InBounds
  := by
  induction h with
  | boot c rom short =>
      rw [booted_eq c short]
      apply c.machine.booted_inBounds
  | serve _ r ih => apply after_inBounds ih r

/-! ### Faults -/

theorem fault_of_serve {c d : Processor} {r : Request} {e : Fault} (h : c.machine.InBounds)
    (failed : c.serve r = .error e d) :
  e = .partialSnapshot ∨ c.machine.fault? = some e
  := by
  cases r with
  | step =>
      right
      apply (ending_eq_error_iff.mp ((step_eq h).symm.trans failed)).1
  | tick =>
      right
      apply (fault_of_tick_error h failed).1
  | publish states =>
      left
      rw [serve, publish] at failed
      cases published : c.keyChannel.publish states with
      | ok channel => rw [published] at failed; cases failed
      | error e' =>
          rw [published] at failed
          cases failed
          rw [KeyChannel.publish] at published
          split at published
          · cases published
          · cases published
            rfl

/-- In every run all parts of the machine are within their bounds, and no width is exceeded but
that of the address register. -/
theorem run_inBounds (c : Processor) {rom : List UInt8} (short : rom.length ≤ Machine.programRoom)
    (rs : List Request) :
  (∃ m, Machine.boot rom c.machine = .ok () m) ∧
    ((c.booted rom).play rs).machine.InBounds ∧
    ∀ r e d, ((c.booted rom).play rs).serve r = .error e d → e.ofWidth = false
  := by
  have bounds := ((Reachable.boot c rom short).play rs).inBounds
  constructor
  · use c.machine.booted rom
    apply c.machine.boot_eq_ok short
  · use bounds
    intro r e d failed
    rcases fault_of_serve bounds failed with rfl | fault
    · rfl
    · apply (Machine.fault?_kind fault).2

/-- A run of a program that calls itself until the call stack is full. -/
theorem run_inBounds_calls :
  ([0x22, 0x00] : List UInt8).length ≤ Machine.programRoom ∧
    (((idle (.ofList [7])).booted [0x22, 0x00]).play (List.replicate 20 .tick)).machine.InBounds
  := by
  have short : ([0x22, 0x00] : List UInt8).length ≤ Machine.programRoom := by decide
  use short
  apply (run_inBounds (idle (.ofList [7])) short (List.replicate 20 .tick)).2.1

end Processor

end Chip8
