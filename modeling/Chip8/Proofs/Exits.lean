import Chip8.Startup.Folder
import Chip8.Proofs.Keymaps
import Chip8.Proofs.Starting

/-!
# Exits of the command line

A start with the plain renderer ends quietly or with a failure that is reported, whatever the
program, the keymap and the schedule, unless its rate is too large for a binary fraction
(`Command.start_exits`).
-/

namespace Chip8

namespace Command

/-! ### Exits -/

theorem exitOf_error {f : Failure} :
  (∃ f', exitOf (.error f) = .crashed f') ↔ f.isReported = false
  := by
  rw [exitOf]
  cases f.isReported with
  | true =>
      constructor
      · rintro ⟨f', ⟨⟩⟩
      · intro unreported
        cases unreported
  | false => exact ⟨fun _ => rfl, fun _ => ⟨f, rfl⟩⟩

theorem entry_ne_odd {α : Type} {read : String → Except Refusal α} {value : String}
    {e : Setting α} (given : Settings.entry read value = .ok e) :
  e ≠ .odd
  := by
  rintro rfl
  rw [Settings.entry] at given
  split at given
  · cases given
  · cases taken : read value with
    | ok x =>
        rw [taken] at given
        cases given
    | error r =>
        rw [taken] at given
        cases given

theorem assign_keymap {settings settings' : Settings} {s : Switch} {value : String}
    (assigned : settings.assign s value = .ok settings') (even : settings.keymap ≠ .odd) :
  settings'.keymap ≠ .odd
  := by
  have entered : ∀ {α : Type} {x : Except Refusal (Setting α)} {next : Setting α → Settings},
      (do return next (← x)) = Except.ok settings' → ∃ e, x = .ok e ∧ next e = settings' := by
    intro α x next done
    cases x with
    | error r => cases done
    | ok e => exact ⟨e, rfl, Except.ok.inj done⟩
  cases s with
  | help =>
      cases assigned
      exact even
  | debug =>
      cases assigned
      exact even
  | keymap =>
      obtain ⟨e, given, rfl⟩ := entered assigned
      exact entry_ne_odd given
  | _ =>
      obtain ⟨e, -, rfl⟩ := entered assigned
      exact even

/-- What a command line gives for the keymap is never odd. -/
theorem obey_keymap {d : Draft} {rs : List Request} {a : Arguments}
    (accepted : obey d rs = .accepted a) (even : d.settings.keymap ≠ .odd) :
  a.settings.keymap ≠ .odd
  := by
  induction rs generalizing d with
  | nil =>
      rw [obey, Draft.conclude] at accepted
      split at accepted
      · cases accepted
      · split at accepted
        · cases accepted
          exact even
        · cases accepted
  | cons r rs ih =>
      cases r with
      | flag s =>
          cases s with
          | help => cases accepted
          | debug => exact ih accepted even
          | _ => exact ih accepted even
      | assign s value =>
          rw [obey] at accepted
          split at accepted
          · next assigned => exact ih accepted (assign_keymap assigned even)
          · cases accepted
      | file name => exact ih accepted even
      | extra text => exact ih accepted even
      | fail r => cases accepted

end Command

/-! ### Messages -/

/-- A keymap that cannot be used is reported. -/
theorem Keymap.isReported_of_ofText {text : String} {e : HostError}
    (bad : ofText text = .error e) :
  e.isReported = true
  := by
  have reported : ∀ e ∈ [HostError.keyCount, .keyNotInteger, .duplicateKey],
      e.isReported = true := by decide
  exact reported e (ofText_error bad)

theorem append_ne_empty {s : String} (t : String) (h : s ≠ "") :
  s ++ t ≠ ""
  := fun both => h (String.append_eq_empty_iff.mp both).1

theorem HostError.message_ne_empty {e : HostError} (reported : e.isReported = true) :
  e.message ≠ ""
  := by
  cases e with
  | excessive _ | refused _ | noMixer _ => cases reported
  | _ => decide

/-- A failure that is reported has a last line to report. -/
theorem Failure.message_ne_empty {f : Failure} (reported : f.isReported = true)
    (told : ∀ h, f = .broken (.halt h) → h.report ≠ "") :
  f.message ≠ ""
  := by
  cases f with
  | unknownRenderer name =>
      rw [Failure.message.eq_def]
      exact append_ne_empty _ (append_ne_empty _ (by decide))
  | unreadable name code reason =>
      rw [Failure.message.eq_def]
      apply append_ne_empty
      exact append_ne_empty _ (append_ne_empty _ (append_ne_empty _ (by decide)))
  | romTooLarge size =>
      rw [Failure.message.eq_def]
      exact append_ne_empty _ (append_ne_empty _ (by decide))
  | broken b =>
      cases b with
      | halt h => exact told h rfl
      | _ => cases reported
  | device e => exact HostError.message_ne_empty reported
  | failed e => exact HostError.message_ne_empty reported
  | _ => cases reported

namespace Command

/-- Take arguments that were accepted, with the plain renderer and integers for rate and seed,
and a file that is read or refused. However a start with them ends, it crashes exactly if the
program fits, the keymap can be used, and the rate is too large for a binary fraction. It fails to
load exactly if the file is refused or has more than 3584 bytes. Every failure is either that of
the rate, or reported with a text that is not empty, and if the processor broke down, then it halted
for a fault that halts a processor. -/
theorem start_exits {words : List String} {a : Arguments}
    (accepted : Arguments.read words = .accepted a)
    (plain : a.settings.renderer = .given RendererKind.plain.name)
    (rate : a.settings.rate.isUsable = true) (seed : a.settings.seed.isUsable = true)
    {around : Surroundings} (allowed : around.read a.filename ≠ .error .badName)
    {result : Except Failure Unit × Transcript}
    (ended : Startup.Ends a.options around result) :
  let fits := ∃ rom, around.read a.filename = .ok rom ∧ rom.length ≤ 3584
  ((∃ f, exitOf result.1 = .crashed f) ↔
      fits ∧ (∃ m, Keymap.ofText a.settings.keymapText = .ok m) ∧
        ∃ n, a.settings.rate = .given n ∧ Binary64.overflow ≤ n) ∧
    ((∃ f, result.1 = .error f ∧ f.isOfLoading = true) ↔ ¬fits) ∧
    ∀ f, result.1 = .error f →
      (∃ n, a.settings.rate = .given n ∧ f = .fault (.rateTooLarge n)) ∨
        (f.isReported = true ∧ f.message ≠ "" ∧
          ∀ b, f = .broken b → ∃ h, b = .halt h ∧ h.cause.isHalting = true)
  := by
  intro fits
  have keymap : a.settings.keymap ≠ .odd := by
    rw [Arguments.read] at accepted
    split at accepted
    · apply obey_keymap accepted
      intro odd
      cases odd
    · cases accepted
  have told : ∀ f : Failure, f.isReported = true → (∀ b, f ≠ .broken b) →
      f.isReported = true ∧ f.message ≠ "" ∧
        ∀ b, f = .broken b → ∃ h, b = .halt h ∧ h.cause.isHalting = true := by
    intro f reported other
    use reported, Failure.message_ne_empty reported fun h is => absurd is (other _)
    intro b is
    exact absurd is (other b)
  rcases Startup.ends_cases plain rate seed keymap allowed ended with
    ⟨f, failed, unready⟩ | ⟨⟨s, rom, random, file, short, equipped⟩, finished⟩
  · rw [failed, exitOf_error]
    simp only [Except.error.injEq, exists_eq_left', forall_eq']
    generalize file : around.read a.filename = outcome at unready
    cases unready with
    | unloaded h =>
        obtain ⟨reported, loading, other, unfit⟩ := h.kind
        rw [← file] at unfit
        refine ⟨⟨?_, ?_⟩, ⟨fun _ => unfit, fun _ => loading⟩, .inr (told f reported other)⟩
        · intro unreported
          cases reported.symm.trans unreported
        · rintro ⟨fit, -⟩
          exact absurd fit unfit
    | unequipped short h =>
        have fit : fits := ⟨_, file, short⟩
        cases h with
        | badKeymap bad =>
            have reported : (Failure.device _).isReported = true :=
              Keymap.isReported_of_ofText bad
            refine ⟨⟨?_, ?_⟩, ?_, .inr (told _ reported fun b => Failure.noConfusion)⟩
            · intro unreported
              cases reported.symm.trans unreported
            · rintro ⟨-, ⟨m, good⟩, -⟩
              cases bad.symm.trans good
            · exact ⟨Bool.noConfusion, fun unfit => absurd fit unfit⟩
        | tooFast good given large =>
            refine ⟨⟨fun _ => ⟨fit, ⟨_, good⟩, _, given, large⟩, fun _ => rfl⟩, ?_, ?_⟩
            · exact ⟨Bool.noConfusion, fun unfit => absurd fit unfit⟩
            · exact .inl ⟨_, given, rfl⟩
  · have fit : fits := ⟨rom, file, short⟩
    have swift : ¬∃ n, a.settings.rate = .given n ∧ Binary64.overflow ≤ n := by
      rintro ⟨n, given, large⟩
      exact absurd large (Int.not_le_of_gt (equipped.slow n given))
    rcases finished with quiet | ⟨h, halted, halting, report⟩
    · rw [quiet]
      refine ⟨⟨?_, fun crash => absurd crash.2.2 swift⟩, ⟨?_, fun unfit => absurd fit unfit⟩, ?_⟩
      · rintro ⟨f, ⟨⟩⟩
      · rintro ⟨f, ⟨⟩, -⟩
      · rintro f ⟨⟩
    · rw [halted, exitOf_error]
      simp only [Except.error.injEq, exists_eq_left', forall_eq']
      refine ⟨⟨Bool.noConfusion, fun crash => absurd crash.2.2 swift⟩, ?_, ?_⟩
      · exact ⟨Bool.noConfusion, fun unfit => absurd fit unfit⟩
      · right
        use rfl, report
        rintro _ ⟨⟩
        exact ⟨h, rfl, halting⟩

/-- The only file holds a program that returns without a call. -/
def lonelyReturn : FileReader := fun name =>
  if name = "lonely.ch8" then .ok [0x00, 0xee] else .error Folder.absent

/-- Arguments that name this program, with a rate. -/
def lonelyArguments (rate : Int) : Arguments where
  filename := "lonely.ch8"
  settings := { Settings.initial with renderer := .given "null", rate := .given rate }

/-- The fault for which a start ended with a halt. -/
def haltCause? : Except Failure Unit → Option Fault
  | .error (.broken (.halt h)) => some h.cause
  | _ => none

theorem haltCause?_eq_some {result : Except Failure Unit} {e : Fault}
    (halted : haltCause? result = some e) :
  ∃ h, result = .error (.broken (.halt h)) ∧ h.cause = e
  := by
  unfold haltCause? at halted
  split at halted
  · next h => exact ⟨h, rfl, Option.some.inj halted⟩
  · cases halted

/-- The user is told that the program returns without a call. -/
theorem start_exits_lonely :
  Arguments.read ["--renderer", "null", "lonely.ch8"] = .accepted (lonelyArguments 60) ∧
    ∃ h t, Startup.Ends (lonelyArguments 60).options (.willing lonelyReturn 0)
        (.error (.broken (.halt h)), t) ∧
      h.cause = .stackUnderflow ∧
      (∃ message, exitOf (.error (.broken (.halt h))) = .failed message) ∧
      ¬(∃ f, exitOf (.error (.broken (.halt h))) = .crashed f) ∧ h.report ≠ ""
  := by
  have accepted : Arguments.read ["--renderer", "null", "lonely.ch8"] =
      .accepted (lonelyArguments 60) := by decide +kernel
  have halts : (Startup.run? (lonelyArguments 60).options (.willing lonelyReturn 0) 3).bind
      (fun result => haltCause? result.1) = some .stackUnderflow := by decide +kernel
  obtain ⟨⟨result, t⟩, ran, halted⟩ := Option.bind_eq_some_iff.mp halts
  obtain ⟨h, rfl, cause⟩ := haltCause?_eq_some halted
  have file : lonelyReturn "lonely.ch8" = .ok [0x00, 0xee] := if_pos rfl
  have allowed : lonelyReturn "lonely.ch8" ≠ .error .badName := by
    intro refused
    cases file.symm.trans refused
  have ended := Startup.ends_of_run? ran
  obtain ⟨crashes, -, told⟩ := start_exits accepted rfl rfl rfl allowed ended
  use accepted, h, t, ended, cause, ⟨_, rfl⟩
  constructor
  · intro crashed
    obtain ⟨-, -, n, ⟨⟩, large⟩ := crashes.mp crashed
    exact absurd large (by decide +kernel)
  · rcases told _ rfl with ⟨n, -, ⟨⟩⟩ | ⟨-, report, -⟩
    exact report

/-- A rate is read from the command line. -/
theorem read_rate {text : String} {c : Char} {cs : List Char} {n : Int}
    (starts : text.toList = c :: cs) (unsigned : c ≠ '-')
    (number : Numeral.decimal? text = some n) :
  Arguments.read ["--renderer", "null", "-r", text, "lonely.ch8"] =
    .accepted (lonelyArguments n)
  := by
  have proper : text ≠ "--" := by
    rintro rfl
    cases starts
    exact unsigned rfl
  have token : Token.ofArgument text = .ok (.plain text) := by
    have head : text.toList.head? ≠ some '-' := by
      rw [starts]
      exact fun same => unsigned (Option.some.inj same)
    exact if_pos (.inl head)
  have fixed : Token.ofArgument "--renderer" = .ok (.awaiting [] .renderer) ∧
      Token.ofArgument "null" = .ok (.plain "null") ∧
      Token.ofArgument "-r" = .ok (.awaiting [] .rate) ∧
      Token.ofArgument "lonely.ch8" = .ok (.plain "lonely.ch8") := by decide +kernel
  obtain ⟨renderer, null, rate, file⟩ := fixed
  have tokens : Token.ofArguments ["--renderer", "null", "-r", text, "lonely.ch8"] =
      .ok [.awaiting [] .renderer, .plain "null", .awaiting [] .rate, .plain text,
        .plain "lonely.ch8"] := by
    have others : "--renderer" ≠ "--" ∧ "null" ≠ "--" ∧ "-r" ≠ "--" ∧ "lonely.ch8" ≠ "--" := by
      decide
    simp only [Token.ofArguments, others, proper, if_false, renderer, null, rate, token, file]
    rfl
  have assigned : ∀ settings : Settings,
      settings.assign .rate text = .ok { settings with rate := .given n } := by
    intro settings
    rw [Settings.assign.eq_def]
    simp only [Settings.entry, if_neg proper, Settings.integer, number]
    rfl
  rw [Arguments.read, tokens]
  simp only [requests, requestsBehindFile, List.map_nil, List.nil_append, obey, assigned]
  rfl

/-- Far more ticks per second than fit a binary fraction. -/
def largeRate : Nat := Nat.pow 10 400

/-- The large rate as it is written. -/
def largeRateText : String := String.ofList ('1' :: List.replicate 400 '0')

theorem toList_largeRateText :
  largeRateText.toList = '1' :: List.replicate 400 '0'
  := by
  unfold largeRateText
  apply String.toList_ofList

theorem decimal?_largeRateText :
  Numeral.decimal? largeRateText = some (largeRate : Int)
  := by
  rw [Numeral.decimal?, toList_largeRateText]
  decide +kernel

/-- Nobody tells the user that the large rate is too large. -/
theorem start_exits_large_rate :
  Arguments.read ["--renderer", "null", "-r", largeRateText, "lonely.ch8"] =
      .accepted (lonelyArguments largeRate) ∧
    ∃ result, Startup.Ends (lonelyArguments largeRate).options (.willing lonelyReturn 0) result ∧
      exitOf result.1 = .crashed (.fault (.rateTooLarge largeRate))
  := by
  have crashed : (Startup.run? (lonelyArguments largeRate).options (.willing lonelyReturn 0) 0).map
      (fun result => exitOf result.1) = some (.crashed (.fault (.rateTooLarge largeRate))) := by
    decide +kernel
  obtain ⟨result, ran, exit⟩ := Option.map_eq_some_iff.mp crashed
  use read_rate toList_largeRateText (by decide) decimal?_largeRateText, result
  exact ⟨Startup.ends_of_run? ran, exit⟩

end Command

end Chip8
