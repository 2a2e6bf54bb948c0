import Chip8.Command.Session
import Chip8.Proofs.Determinism
import Chip8.Proofs.Hexadecimal

/-!
# Reports of halts

The report of a halt is put together after a tick failed, from what was noted of the tick on the way
and from the machine that it left. Yet it tells what was the case before the tick (`Halt.Tells`): no
instruction that fails moves the program counter, and the word and the instruction are noted before
the instruction can change the memory. What failed where is told in one line (`Text.OneLine`), so a
session that shows the last line of the report shows all of it.
-/

namespace Chip8

/-! ### Texts of one line -/

namespace Text

/-- No character of a text ends a line. -/
def OneLine (s : String) : Prop := ∀ c ∈ s.toList, endsLine c = false

instance (s : String) : Decidable (OneLine s) :=
  List.decidableBAll (fun c => endsLine c = false) s.toList

theorem OneLine.append {s t : String} (hs : OneLine s) (ht : OneLine t) :
  OneLine (s ++ t)
  := by
  intro c hc
  rw [String.toList_append, List.mem_append] at hc
  exact hc.elim (hs c) (ht c)

theorem OneLine.around {s t u : String} (hs : OneLine s) (ht : OneLine t) (hu : OneLine u) :
  OneLine (s ++ t ++ u)
  := (hs.append ht).append hu

theorem dropLineEnd_of_not_endsLine {c : Char} (h : endsLine c = false) (cs : List Char) :
  dropLineEnd (c :: cs) = c :: cs
  := by
  unfold dropLineEnd
  split
  · next same =>
      obtain ⟨rfl, -⟩ := List.cons.inj same
      cases h
  · next same =>
      obtain ⟨rfl, rfl⟩ := List.cons.inj same
      rw [h, if_neg Bool.false_ne_true]
  · next same => cases same

/-- The last line of a text is what follows the last end of a line, unless nothing does. -/
theorem lastLine_append (above : String) {line : String} (one : OneLine line) (h : line ≠ "") :
  lastLine (above ++ "\n" ++ line) = line
  := by
  have reversed : (above ++ "\n" ++ line).toList.reverse =
      line.toList.reverse ++ '\n' :: above.toList.reverse := by
    simp
  have whole : dropLineEnd (line.toList.reverse ++ '\n' :: above.toList.reverse) =
      line.toList.reverse ++ '\n' :: above.toList.reverse := by
    cases last : line.toList.reverse with
    | nil => exact absurd (String.toList_eq_nil_iff.mp (List.reverse_eq_nil_iff.mp last)) h
    | cons c cs =>
        apply dropLineEnd_of_not_endsLine
        apply one
        rw [← List.mem_reverse, last]
        apply List.mem_cons_self
  have taken : (line.toList.reverse ++ '\n' :: above.toList.reverse).takeWhile (!endsLine ·) =
      line.toList.reverse := by
    rw [List.takeWhile_append_of_pos]
    · exact List.append_nil _
    · intro c hc
      rw [one c (List.mem_reverse.mp hc)]
      rfl
  rw [lastLine, reversed, whole, taken, List.reverse_reverse, String.ofList_toList]

end Text

open Text

/-! ### The parts of a last line -/

namespace Hex

theorem not_endsLine_of_isDigit {c : Char} (h : isDigit c = true) :
  endsLine c = false
  := by
  have digits : ∀ d < 16, endsLine d.digitChar = false := by decide
  obtain ⟨d, small, equal⟩ := List.any_eq_true.mp h
  rw [← beq_iff_eq.mp equal]
  exact digits d (List.mem_range.mp small)

theorem oneLine_padded (width : Nat) (v : Int) :
  OneLine (padded width v)
  := by
  intro c member
  rcases mem_padded member with ⟨rfl, -⟩ | digit
  · rfl
  · exact not_endsLine_of_isDigit digit

theorem oneLine_text (v : Int) :
  OneLine (text v)
  := by
  rw [text_eq_padded]
  exact oneLine_padded 0 v

end Hex

theorem Instruction.oneLine_name (i : Instruction) :
  OneLine i.name
  := by
  have names : ∀ i ∈ all, OneLine i.name := by decide
  apply names i (mem_all i)

namespace Fault

theorem oneLine_badAddress (a : Int) :
  OneLine (badAddress "RAM" a).message
  := by
  rw [message]
  exact .around (by decide) (Hex.oneLine_text a) (by decide)

theorem oneLine_badRegister (bank : RegisterBank) (index : Int) :
  OneLine (badRegister bank index).message
  := by
  have label : OneLine bank.label := by cases bank <;> decide
  rw [message]
  exact .around (label.append (by decide)) (Hex.oneLine_text index) (by decide)

theorem oneLine_unknownWord (word : Int) :
  OneLine (unknownWord word).message
  := by
  rw [message]
  exact .around (by decide) (Hex.oneLine_padded 4 word) (by decide)

theorem oneLine_tooWide (value : Int) :
  OneLine (tooWide "I" 12 value).message
  := by
  rw [message]
  exact .around (.around (by decide) (Hex.oneLine_text value) (by decide)) (by decide) (by decide)

end Fault

/-- An instruction that is refused is known, and the message of the fault takes one line. -/
theorem Machine.refusal?_message {m : Machine} {i : Instruction} {op : Opcode} {e : Fault}
    (h : m.refusal? i op = some e) :
  (∀ word, e ≠ .unknownWord word) ∧ OneLine e.message
  := by
  unfold refusal? at h
  split at h
  case h_10 => cases h
  all_goals obtain ⟨-, ⟨⟩⟩ := Option.ite_none_right_eq_some.mp h
  case h_1 | h_2 => exact ⟨nofun, by decide⟩
  case h_3 | h_4 => exact ⟨nofun, Fault.oneLine_badRegister _ _⟩
  case h_5 | h_6 => exact ⟨nofun, Fault.oneLine_badAddress _⟩
  all_goals exact ⟨nofun, Fault.oneLine_tooWide _⟩

namespace Processor

/-! ### The last line -/

theorem oneLine_activity (p : Progress) :
  OneLine (activity p)
  := by
  rw [activity]
  cases p.instruction with
  | none => decide
  | some i =>
      have verb : OneLine "Instruction " := by decide
      exact verb.append i.oneLine_name

theorem reason_eq (p : Progress) {e : Fault} (known : ∀ word, e ≠ .unknownWord word) :
  reason p e = s!"{activity p} at address 0x{Hex.padded 3 p.pc} failed: {e.message}"
  := by
  unfold reason
  split
  · next word => exact absurd rfl (known word)
  · rfl

theorem oneLine_reason (p : Progress) {e : Fault} (one : OneLine e.message) :
  OneLine (reason p e)
  := by
  unfold reason
  split
  · next word =>
      have opcode := Hex.oneLine_padded 4 word
      exact .around (.around (by decide) opcode (by decide)) (Hex.oneLine_padded 3 p.pc) (by decide)
  · have activity := (oneLine_activity p).append (t := " at address 0x") (by decide)
    exact .append (activity.around (Hex.oneLine_padded 3 p.pc) (by decide)) one

theorem reason_ne_empty (p : Progress) (e : Fault) :
  reason p e ≠ ""
  := by
  unfold reason
  split <;> simp [String.append_eq_empty_iff, toString]

/-- The last line of a report tells the reason of the halt. -/
theorem lastLine_haltFor (c : Processor) {e : Fault} (one : OneLine e.message) :
  lastLine (c.haltFor e).report = reason c.progress e
  := by
  let dump :=
    Dump.full c.machine (c.progress.word.map fun w => (w : Int)) (instructionLabel c.progress)
  let above := String.join ["Emulation halted.\n\n", Product.intro, "Debug info:\n", dump, "\n"]
  have split : (c.haltFor e).report = above ++ "\n" ++ reason c.progress e := by
    have twice : "\n\n" = "\n" ++ "\n" := by decide
    rw [haltFor, twice]
    show _ ++ ("\n" ++ "\n") ++ _ = _
    rw [← String.append_assoc]
    rfl
  rw [split, lastLine_append above (oneLine_reason _ one) (reason_ne_empty _ e)]

end Processor

/-! ### The truth of a report -/

namespace Machine

/-- The address of the word that is executed next, in messages. -/
def place (m : Machine) : String := Hex.padded 3 m.registers.pc.value

/-- The dump of a machine `m'` that a failing tick left: the program counter and the word are those
of the machine `m` before the tick. -/
def dumpOf (m m' : Machine) : String :=
  String.join
    ["V: 0x", Dump.registers m',
      " I: 0x", Hex.padded 3 m'.registers.i.value,
      " DT: 0x", Hex.padded 2 m'.delay.value,
      " ST: 0x", Hex.padded 2 m'.sound.value,
      " PC: 0x", m.place,
      " OP: ", if 0xffe < m.registers.pc.value then "----" else "0x" ++ Hex.padded 4 m.word,
      " IN: ", m.next?.elim "???" Instruction.name] ++
    Dump.stack m'.stack.entries ++ Dump.waiting m'.awaiting

theorem oneLine_of_fault? {m : Machine} {e : Fault} (fault : m.fault? = some e) :
  OneLine e.message
  := by
  rcases fault?_cases fault with ⟨-, rfl⟩ | ⟨-, -, rfl⟩ | ⟨-, i, -, refused⟩
  · apply Fault.oneLine_badAddress
  · apply Fault.oneLine_unknownWord
  · apply (refusal?_message refused).2

end Machine

/-- A halt tells the truth about a tick of `m` that failed with `e` and left `m'`. -/
structure Halt.Tells (h : Halt) (m : Machine) (e : Fault) (m' : Machine) : Prop where
  cause : h.cause = e
  /-- There was no word at the program counter. -/
  unfetched : 0xffe < m.registers.pc.value →
    lastLine h.report = s!"Fetch at address 0x{m.place} failed: {e.message}"
  /-- The word at the program counter had no instruction. -/
  unknown : m.registers.pc.value ≤ 0xffe → (∀ i : Instruction, i.accepts m.word = false) →
    lastLine h.report =
      s!"Opcode 0x{Hex.padded 4 m.word} at address 0x{m.place} is not emulated."
  /-- The instruction of the word at the program counter was refused. -/
  refused : m.registers.pc.value ≤ 0xffe → ∀ i : Instruction, i.accepts m.word = true →
    lastLine h.report = s!"Instruction {i.name} at address 0x{m.place} failed: {e.message}"
  /-- The last line stands below a dump of what the tick left. -/
  dump : h.report = String.join ["Emulation halted.\n\n", Product.intro, "Debug info:\n",
    m.dumpOf m', "\n\n", lastLine h.report]
  /-- A session tells the user the last line. -/
  shown : Command.exitOf (.error (.broken (.halt h))) = .failed (lastLine h.report)

namespace Processor

theorem dump_stepped {c : Processor} {e : Fault} (h : c.machine.InBounds)
    (fault : c.machine.fault? = some e) :
  Dump.full c.stepped.machine (c.stepped.progress.word.map fun w => (w : Int))
      (instructionLabel c.stepped.progress) =
    c.machine.dumpOf c.stepped.machine
  := by
  have pc : c.stepped.machine.registers.pc = c.machine.registers.pc :=
    (Machine.abandoned_stepped h fault).pc
  have word : Dump.word (c.machine.fetched?.map fun w => (w : Int)) =
      if 0xffe < c.machine.registers.pc.value then "----"
      else "0x" ++ Hex.padded 4 c.machine.word := by
    by_cases outside : 0xffe < c.machine.registers.pc.value
    · rw [(Machine.next?_of_outside outside).1, if_pos outside]
      rfl
    · rw [(Machine.next?_of_inside (Nat.le_of_not_lt outside)).1, if_neg outside]
      rfl
  have label : ∀ p : Progress, instructionLabel p = p.instruction.elim "???" Instruction.name := by
    intro p
    rw [instructionLabel]
    cases p.instruction <;> rfl
  rw [stepped_progress, Dump.full, Dump.line, Machine.dumpOf, Machine.place, pc, word, label]

/-- The report on a failing tick tells the truth. -/
theorem tells_stepped {c : Processor} {e : Fault} (h : c.machine.InBounds)
    (fault : c.machine.fault? = some e) :
  (c.stepped.haltFor e).Tells c.machine e c.stepped.machine
  := by
  have last := lastLine_haltFor c.stepped (Machine.oneLine_of_fault? fault)
  have progress := stepped_progress c
  constructor
  case cause => rfl
  case shown => rfl
  case dump => rw [last, ← dump_stepped h fault, haltFor]
  all_goals rw [last, progress]
  case unfetched =>
    intro outside
    rcases Machine.fault?_cases fault with ⟨-, rfl⟩ | ⟨inside, -⟩ | ⟨inside, -⟩
    · rw [(Machine.next?_of_outside outside).2]
      rfl
    · exact absurd outside (Nat.not_lt_of_ge inside)
    · exact absurd outside (Nat.not_lt_of_ge inside)
  case unknown =>
    intro inside none
    rw [← Instruction.ofWord?_eq_none_iff] at none
    rcases Machine.fault?_cases fault with ⟨outside, -⟩ | ⟨-, -, rfl⟩ | ⟨-, i, known, -⟩
    · exact absurd outside (Nat.not_lt_of_ge inside)
    · rfl
    · cases none.symm.trans known
  case refused =>
    intro inside i accepted
    rw [← Instruction.ofWord?_eq_some_iff] at accepted
    rcases Machine.fault?_cases fault with ⟨outside, -⟩ | ⟨-, none, -⟩ | ⟨-, i', known, refused⟩
    · exact absurd outside (Nat.not_lt_of_ge inside)
    · cases none.symm.trans accepted
    · -- The word was noted before the instruction could overwrite it, and so was the instruction.
      have other := (Machine.refusal?_message refused).1
      rw [reason_eq _ other, (Machine.next?_of_inside inside).2, accepted]
      rfl

theorem tells_of_tick {c d : Processor} {e : Fault} (h : c.machine.InBounds)
    (failed : c.tick = .error e d) :
  (d.haltFor e).Tells c.machine e d.machine
  := by
  obtain ⟨fault, rfl⟩ := fault_of_tick_error h failed
  apply tells_stepped h fault

/-- A tick that fails halts the processor. -/
theorem breakdown_of_tick_error {c d : Processor} {e : Fault} (h : c.machine.InBounds)
    (failed : c.tick = .error e d) :
  d.breakdownFor e = .halt (d.haltFor e)
  := if_pos (Machine.fault?_kind (fault_of_tick_error h failed).1).1

/-! ### Ticks that are counted -/

/-- Whether a request is a tick that completes. -/
def completesTick (c : Processor) : Request → Bool
  | .tick =>
      match c.tick with
      | .ok _ _ => true
      | .error _ _ => false
  | .step | .publish _ => false

/-- The number of ticks among requests that complete. -/
def ticksMade (c : Processor) : List Request → Nat
  | [] => 0
  | r :: rs => (c.completesTick r).toNat + (c.after r).ticksMade rs

theorem ticks_after (c : Processor) (r : Request) :
  (c.after r).ticks = c.ticks + (c.completesTick r).toNat
  := by
  cases r with
  | step => exact (keeps_ticks (a := step)).kept c
  | tick =>
      show (left c.tick).ticks = _
      rw [completesTick]
      cases ticked : c.tick with
      | ok x d => exact ticks_of_tick ticked
      | error e d => exact ticks_of_tick_error ticked
  | publish states =>
      rw [after_publish_eq]
      rfl

/-- The ticks that complete are counted, and no others. -/
theorem ticks_play (c : Processor) (rs : List Request) :
  (c.play rs).ticks = c.ticks + c.ticksMade rs
  := by
  induction rs generalizing c with
  | nil => rfl
  | cons r rs ih =>
      calc (c.play (r :: rs)).ticks
        _ = (c.after r).ticks + (c.after r).ticksMade rs := ih (c.after r)
        _ = c.ticks + (c.completesTick r).toNat + (c.after r).ticksMade rs := by
            rw [ticks_after]
        _ = c.ticks + c.ticksMade (r :: rs) := Nat.add_assoc ..

/-- What no request changes is not changed by requests one after the other. -/
theorem kept_play {τ : Type} {f : Processor → τ} [stepped : Keeps f step] [ticked : Keeps f tick]
    (published : ∀ (c : Processor) states, f (c.after (.publish states)) = f c) (c : Processor)
    (rs : List Request) :
  f (c.play rs) = f c
  := by
  induction rs generalizing c with
  | nil => rfl
  | cons r rs ih =>
      apply (ih (c.after r)).trans
      cases r with
      | step => exact stepped.kept c
      | tick => exact ticked.kept c
      | publish states => exact published c states

/-- No request asks the processor to stop. -/
theorem stopRequested_play (c : Processor) (rs : List Request) :
  (c.play rs).stopRequested = c.stopRequested
  := kept_play (fun c states => by rw [after_publish_eq]) c rs

/-- No request changes how long can be waited. -/
theorem canWaitAt_play (c : Processor) (rs : List Request) :
  (c.play rs).canWaitAt = c.canWaitAt
  := kept_play (fun c states => by rw [after_publish_eq]; rfl) c rs

end Processor

/-! ### Halts -/

namespace Joint

open Processor

/-- Beside a host as well, a processor halts at a tick that fails. -/
theorem finished_of_tick_error {c d : Processor} {rs : List Request} {j : Joint} {e : Fault}
    (h : c.machine.InBounds) (follows : Follows c rs j.cpuMove j.system.cpu)
    (begins : j.cpuMove = .execute) (failed : (c.play rs).tick = .error e d) :
  j.cpuTurn.cpuTurn.cpuMove = .finished (some (.halt (d.haltFor e)))
  := by
  have stepFailed := step_of_tick_error (play_inBounds h rs) failed
  rw [begins] at follows
  obtain ⟨-, -, ⟨⟩, alike⟩ := follows
  obtain ⟨cpu, failed', alike'⟩ := Isolated.of_error alike stepFailed
  have cause : cpu.breakdownFor e = .halt (d.haltFor e) := by
    rw [← breakdownFor_bare, alike', breakdownFor_bare,
      breakdown_of_tick_error (play_inBounds h rs) failed]
  have next : j.cpuTurn.cpuMove = .close (some (.halt (d.haltFor e))) := by
    rw [cpuTurn, begins]
    dsimp only
    rw [perform, failed', ← cause]
  rw [cpuTurn, next]

/-- When a processor has broken down beside a host, it has halted, and its halt tells the truth about
the tick that failed, or the next tick is too far away. -/
theorem tells_of_finished {c : Processor} {rs : List Request} {j : Joint} {b : Breakdown}
    (h : c.machine.InBounds) (follows : Follows c rs j.cpuMove j.system.cpu)
    (ended : j.cpuMove = .finished (some b)) :
  (∃ halt e d, b = .halt halt ∧ (c.play rs).tick = .error e d ∧
      halt.Tells (c.play rs).machine e d.machine ∧ j.system.cpu.bare = d.silence.bare) ∨
    b = .endlessWait ∧ (c.play rs).canWait = false
  := by
  rw [ended] at follows
  obtain ⟨d', ⟨d, ⟨e, failed, cause⟩ | ⟨endless, far, -⟩, alike⟩, same⟩ := follows
  · left
    have ticked : (c.play rs).tick = .error e d := tick_eq_error_iff.mpr failed
    have bounds := play_inBounds h rs
    refine ⟨d.haltFor e, e, d, ?_, ticked, tells_of_tick bounds ticked, ?_⟩
    · rw [cause, breakdown_of_tick_error bounds ticked]
    · rw [same, silence_bare, alike, ← silence_bare]
  · exact .inr ⟨endless, far⟩

end Joint

namespace Processor

/-- A program that writes an instruction to 0xff8 and goes on there; the instruction stores eight
registers from 0xff8 on, so it overwrites itself before it fails. -/
def overwritingProgram : List UInt8 :=
  [0x60, 0xf7, 0x61, 0x55, 0xaf, 0xf8, 0xf1, 0x55, 0xaf, 0xf8, 0x60, 0x00, 0x1f, 0xf8]

/-- The processor with this program. -/
def overwriting : Processor := (idle (.ofList [7])).booted overwritingProgram

theorem overwriting_eq :
  overwriting = { idle (.ofList [7]) with
    machine := (idle (.ofList [7])).machine.booted overwritingProgram }
  := booted_eq _ (by decide)

end Processor

end Chip8
