import Chip8.Proofs.Failure
import Mathlib.Data.List.Infix

/-!
# Nesting of calls

The call stack of a processor that runs a program is the list of the calls which were executed and
not yet returned from (`Processor.stack_play`), since no other instruction touches it. So calls and
returns nest: the instruction that brings the stack back to its depth before a call is the return
from this call, and the program goes on behind the call (`Processor.return_of_call`).
-/

namespace Chip8

/-- An instruction that was executed, with the address from which it was fetched. -/
structure Executed where
  address : Nat
  instruction : Instruction
deriving DecidableEq

/-- The open calls after another instruction, the newest first: a call opens one at its address,
and a return closes the newest. -/
def Executed.track (calls : List Nat) (x : Executed) : List Nat :=
  match x.instruction with
  | .call => x.address :: calls
  | .ret => calls.tail
  | _ => calls

/-- The calls that remain open after instructions were executed, the newest first. -/
def openCalls (history : List Executed) : List Nat := history.foldl Executed.track []

/-- Calls and returns are the only instructions that touch the call stack. -/
theorem Machine.outcome_stack (m : Machine) (i : Instruction) (op : Opcode) :
  (m.outcome i op).stack.newestFirst =
    Executed.track m.stack.newestFirst ⟨m.registers.pc.value, i⟩
  := by
  cases i with
  | awaitKey =>
      rw [outcome]
      split <;> rfl
  | loadRegisters =>
      have key := m.load_eq (Action.registersTo op.x) m.registers.i.value
      exact congrArg (fun m => m.stack.newestFirst) key
  | _ => rfl

namespace Processor

/-! ### What a request executes -/

/-- The instruction that a step or tick executed, unless it failed. -/
def carriedOut : EStateM.Result Fault Processor Unit → Option Executed
  | .ok _ d => d.progress.instruction.map fun i => ⟨d.progress.pc, i⟩
  | .error _ _ => none

/-- The instruction that a request executes, if it does and the instruction is carried out. -/
def executed? (c : Processor) (r : Request) : Option Executed :=
  match r with
  | .publish _ => none
  | .step | .tick => carriedOut (c.serve r)

/-- The instructions that requests execute, the first one first. -/
def history (c : Processor) : List Request → List Executed
  | [] => []
  | r :: rs => (c.executed? r).toList ++ (c.after r).history rs

/-- Steps and ticks end with the fault of the machine, and their control is that of the step. -/
theorem serve_eq {c : Processor} (h : c.machine.InBounds) {r : Request}
    (active : ∀ states, r ≠ .publish states) :
  ∃ good, c.serve r = ending c.machine.fault? good c.stepped ∧ good.control = c.stepped.control
  := by
  cases r with
  | step => use c.stepped, step_eq h
  | tick => use c.stepped.served, tick_eq h, served_control _
  | publish states => exact absurd rfl (active states)

theorem executed?_of_active (c : Processor) {r : Request}
    (active : ∀ states, r ≠ .publish states) :
  c.executed? r = carriedOut (c.serve r)
  := by
  cases r with
  | step => rfl
  | tick => rfl
  | publish states => exact absurd rfl (active states)

/-- A request either leaves the call stack as it is, or it carries out the instruction that is
found. -/
theorem request_cases {c : Processor} (h : c.machine.InBounds) (r : Request) :
  (c.executed? r = none ∧ (c.after r).machine.stack = c.machine.stack) ∨
    ∃ i, c.executed? r = some ⟨c.machine.registers.pc.value, i⟩ ∧
      (c.after r).machine.stack = (c.machine.outcome i (.ofWord c.machine.word)).stack ∧
      (c.after r).machine.registers.pc =
        (c.machine.outcome i (.ofWord c.machine.word)).registers.pc
  := by
  by_cases active : ∀ states, r ≠ .publish states
  · obtain ⟨good, served, same⟩ := serve_eq h active
    rw [executed?_of_active c active, after, served]
    cases fault : c.machine.fault? with
    | some e =>
        left
        use rfl
        apply (Machine.abandoned_stepped h fault).stack
    | none =>
        right
        obtain ⟨i, found, carried⟩ := Machine.stepped_of_sound fault
        have progress : good.progress = c.stepped.progress := congrArg (fun k => k.2.2) same
        use i
        constructor
        · rw [ending, carriedOut, progress, stepped_progress, found]
          rfl
        · rw [← carried]
          exact ⟨congrArg (fun k => k.2.1) same, congrArg (fun k => k.1) same⟩
  · left
    simp only [not_forall, Decidable.not_not] at active
    obtain ⟨states, rfl⟩ := active
    use rfl
    rw [after_publish]

/-- The call stack after a request is told by the instruction that it executes. -/
theorem after_stack {c : Processor} (h : c.machine.InBounds) (r : Request) :
  (c.after r).machine.stack.newestFirst =
    (c.executed? r).toList.foldl Executed.track c.machine.stack.newestFirst
  := by
  rcases request_cases h r with ⟨idle, same⟩ | ⟨i, carried, same, -⟩
  · rw [idle, same]
    rfl
  · rw [carried, same, Machine.outcome_stack]
    rfl

/-- The call stack after requests holds the calls that are open. -/
theorem stack_play {c : Processor} (h : c.machine.InBounds) (rs : List Request) :
  (c.play rs).machine.stack.newestFirst =
    (c.history rs).foldl Executed.track c.machine.stack.newestFirst
  := by
  induction rs generalizing c with
  | nil => rfl
  | cons r rs ih =>
      rw [history, List.foldl_append, ← after_stack h]
      apply ih (after_inBounds h r)

/-! ### Returns -/

section

variable {c : Processor} (h : c.machine.InBounds) {newer older : List Nat} {p : Nat}
  (entries : c.machine.stack.newestFirst = newer ++ p :: older)

include h entries

/-- A request leaves a call open, unless it is the return from this call. -/
theorem open_after (r : Request) :
  (∃ newer', (c.after r).machine.stack.newestFirst = newer' ++ p :: older) ∨
    c.executed? r = some ⟨c.machine.registers.pc.value, .ret⟩ ∧
      (c.after r).machine.stack.newestFirst = older ∧
      (c.after r).machine.registers.pc.value = p + 2
  := by
  rcases request_cases h r with ⟨-, same⟩ | ⟨i, carried, same, counter⟩
  · left
    use newer
    rw [same, entries]
  · rw [same, counter, Machine.outcome_stack, entries]
    cases i with
    | call =>
        left
        use c.machine.registers.pc.value :: newer
        rfl
    | ret =>
        cases newer with
        | cons a newer =>
            left
            use newer
            rfl
        | nil =>
            right
            use carried, rfl
            show c.machine.stack.newestFirst.headD 0 + 2 = p + 2
            rw [entries]
            rfl
    | _ =>
        left
        use newer
        rfl

/-- A call remains open as long as the stack is not as deep as before the call. -/
theorem open_play {rs : List Request}
    (deep : ∀ before, before <+: rs →
      (c.play before).machine.stack.newestFirst.length ≠ older.length) :
  ∃ newer', (c.play rs).machine.stack.newestFirst = newer' ++ p :: older
  := by
  -- The invariant is that `p :: older` lies at the bottom of the stack.
  induction rs generalizing c newer with
  | nil => use newer, entries
  | cons r rs ih =>
      have deeper : ∀ before, before <+: rs →
          ((c.after r).play before).machine.stack.newestFirst.length ≠ older.length := by
        intro before begins
        apply deep (r :: before) (List.cons_prefix_cons.mpr ⟨rfl, begins⟩)
      rcases open_after h entries r with ⟨newer', entries'⟩ | ⟨-, closed, -⟩
      · apply ih (after_inBounds h r) entries' deeper
      · exact absurd (congrArg List.length closed) (deeper [] List.nil_prefix)

end

/-- After a call, the request that brings the stack back to its depth is the return from the
call. -/
theorem return_of_call {c : Processor} (h : c.machine.InBounds) {r last : Request} {p : Nat}
    {between : List Request} (called : c.executed? r = some ⟨p, .call⟩)
    (deep : ∀ before, before <+: between →
      ((c.after r).play before).machine.stack.newestFirst.length ≠
        c.machine.stack.newestFirst.length)
    (back : (((c.after r).play between).after last).machine.stack.newestFirst.length =
      c.machine.stack.newestFirst.length) :
  (∃ q, ((c.after r).play between).executed? last = some ⟨q, .ret⟩) ∧
    (((c.after r).play between).after last).machine.stack = c.machine.stack ∧
    (((c.after r).play between).after last).machine.registers.pc.value = p + 2
  := by
  have bounds := after_inBounds h r
  have pushed : (c.after r).machine.stack.newestFirst =
      [] ++ p :: c.machine.stack.newestFirst := by
    rw [after_stack h, called]
    rfl
  obtain ⟨newer, entries⟩ := open_play bounds pushed deep
  have bounds' : ((c.after r).play between).machine.InBounds := play_inBounds bounds between
  rcases open_after bounds' entries last with ⟨newer', entries'⟩ | ⟨returned, closed, counter⟩
  · rw [entries', List.length_append, List.length_cons] at back
    omega
  · exact ⟨⟨_, returned⟩, congrArg CallStack.mk closed, counter⟩

/-! ### Full and empty stacks -/

theorem tick_of_refused {c : Processor} (h : c.machine.InBounds) {i : Instruction} {e : Fault}
    (found : c.machine.next? = some i)
    (refused : c.machine.refusal? i (.ofWord c.machine.word) = some e) :
  c.tick = .error e c.stepped ∧ c.stepped.machine.stack = c.machine.stack
  := by
  have fault : c.machine.fault? = some e := by rw [Machine.fault?_of_next? found, refused]
  use tick_of_fault h fault
  apply (Machine.abandoned_stepped h fault).stack

/-- The call stack holds the open calls, of which there are at most sixteen, a call with sixteen
open ones and a return without one fail and leave the stack as it is, and the first request after
which the stack is as deep as before a call is the return from this call. -/
theorem calls_nest (c : Processor) {rom : List UInt8} (short : rom.length ≤ Machine.programRoom)
    (rs : List Request) :
  let d := (c.booted rom).play rs
  d.machine.stack.newestFirst = openCalls ((c.booted rom).history rs) ∧
    d.machine.stack.newestFirst.length ≤ 16 ∧
    (d.machine.next? = some .call → d.machine.stack.newestFirst.length = 16 →
      d.tick = .error .stackOverflow d.stepped ∧ d.stepped.machine.stack = d.machine.stack) ∧
    (d.machine.next? = some .ret → d.machine.stack.newestFirst.length = 0 →
      d.tick = .error .stackUnderflow d.stepped ∧ d.stepped.machine.stack = d.machine.stack) ∧
    ∀ (r : Request) (p : Nat) (between : List Request) (last : Request),
      d.executed? r = some ⟨p, .call⟩ →
      (∀ before, before <+: between → ((d.after r).play before).machine.stack.newestFirst.length ≠
        d.machine.stack.newestFirst.length) →
      (((d.after r).play between).after last).machine.stack.newestFirst.length =
        d.machine.stack.newestFirst.length →
      (∃ q, ((d.after r).play between).executed? last = some ⟨q, .ret⟩) ∧
        (((d.after r).play between).after last).machine.stack = d.machine.stack ∧
        (((d.after r).play between).after last).machine.registers.pc.value = p + 2
  := by
  intro d
  have reached := Reachable.boot c rom short
  have bounds : d.machine.InBounds := (reached.play rs).inBounds
  constructor
  · have empty : (c.booted rom).machine.stack.newestFirst = [] := by
      rw [booted_eq c short]
      rfl
    rw [openCalls, ← empty]
    apply stack_play reached.inBounds
  constructor
  · apply bounds.depth
  constructor
  · intro found full
    apply tick_of_refused bounds found
    rw [Machine.refusal?, if_pos (Nat.le_of_eq full.symm)]
  constructor
  · intro found empty
    apply tick_of_refused bounds found
    rw [Machine.refusal?, if_pos (List.length_eq_zero_iff.mp empty)]
  · intro r p between last called deep back
    apply return_of_call bounds called deep back

/-- A program that calls a routine which calls another one. -/
def nestedCalls : List UInt8 :=
  [0x60, 0x2a, 0x22, 0x06, 0x12, 0x04, 0x22, 0x0a, 0x00, 0xee, 0x00, 0xee]

/-- The processor that is about to make the outer one of two calls. -/
def callingTwice : Processor := ((idle (.ofList [7])).booted nestedCalls).play [.tick]

/-- The outer one of two calls returns behind itself. -/
theorem calls_nest_twice :
  callingTwice.executed? .tick = some ⟨0x202, .call⟩ ∧
    (((callingTwice.after .tick).play [.tick, .tick]).after .tick).machine.stack =
      callingTwice.machine.stack ∧
    (((callingTwice.after .tick).play [.tick, .tick]).after .tick).machine.registers.pc.value =
      0x204
  := by
  have called : callingTwice.executed? .tick = some ⟨0x202, .call⟩ := by decide +kernel
  have deep : ∀ before ∈ [Request.tick, .tick].inits,
      ((callingTwice.after .tick).play before).machine.stack.newestFirst.length ≠
        callingTwice.machine.stack.newestFirst.length := by decide +kernel
  have back : (((callingTwice.after .tick).play [.tick, .tick]).after
      .tick).machine.stack.newestFirst.length =
        callingTwice.machine.stack.newestFirst.length := by decide +kernel
  have short : nestedCalls.length ≤ Machine.programRoom := by decide
  obtain ⟨-, -, -, -, nest⟩ := calls_nest (idle (.ofList [7])) short [.tick]
  rw [← callingTwice] at nest
  obtain ⟨-, stack, counter⟩ := nest .tick 0x202 [.tick, .tick] .tick called
    (fun before begins => deep before ((List.mem_inits _ _).mpr begins)) back
  exact ⟨called, stack, counter⟩

end Processor

end Chip8
