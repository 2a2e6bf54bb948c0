import Chip8.Host.Keyboard
import Mathlib.Data.List.Nodup
import Mathlib.Data.List.GetD

/-!
# Keymaps and the keys that are held

A text is a keymap exactly if its parts are sixteen different integers (`Keymap.ofText_eq_ok_iff`).
Then each key has a code, and each code belongs to one key (`Keymap.Assigns`), so every look at the
keyboard replaces the states of all keys by those of their codes, and no key remembers an earlier
look (`Keyboard.tells_takeHeld`).
-/

namespace Chip8

namespace Keymap

/-- The integer that a part of a keymap denotes. -/
def integer? (part : List Char) : Option Int := Numeral.decimal? (String.ofList part)

/-- Two parts, at different places, denote the same integer. -/
def Clashes (parts : List (List Char)) : Prop :=
  ∃ (i j : Nat) (code : Int),
    i < j ∧ parts[i]?.bind integer? = some code ∧ parts[j]?.bind integer? = some code

/-- A keymap gives each key the integer that its part denotes, and no other key has it. -/
structure Assigns (parts : List (List Char)) (m : Keymap) (code : Fin 16 → Int) : Prop where
  denoted : ∀ key : Fin 16, parts[key.val]?.bind integer? = some (code key)
  different : Function.Injective code
  sent : ∀ key c, (key, c) ∈ m.pairs ↔ ∃ k : Fin 16, k.val = key ∧ code k = c

/-! ### Reading -/

/-- Codes are read from parts that denote integers, different from each other and from the earlier
ones. -/
theorem codesFrom_eq_ok_iff {parts : List (List Char)} {earlier codes : List Int}
    (distinct : earlier.Nodup) :
  codesFrom earlier parts = .ok codes ↔
    ∃ more, parts.map integer? = more.map some ∧ codes = earlier ++ more ∧ codes.Nodup
  := by
  induction parts generalizing earlier with
  | nil =>
      rw [codesFrom, Except.ok.injEq]
      constructor
      · rintro rfl
        exact ⟨[], rfl, (List.append_nil _).symm, distinct⟩
      · rintro ⟨more, same, rfl, -⟩
        obtain rfl := List.map_eq_nil_iff.mp same.symm
        exact (List.append_nil _).symm
  | cons part parts ih =>
      rw [codesFrom, List.map_cons, ← integer?]
      cases denoted : integer? part with
      | none =>
          constructor
          · rintro ⟨⟩
          · rintro ⟨more, same, -⟩
            cases more with
            | nil => cases same
            | cons code more => cases same
      | some code =>
          dsimp only
          by_cases seen : code ∈ earlier
          · rw [if_pos seen]
            constructor
            · rintro ⟨⟩
            · rintro ⟨more, same, rfl, different⟩
              cases more with
              | nil => cases same
              | cons code' more =>
                  obtain rfl : code = code' := Option.some.inj (List.cons.inj same).1
                  have apart := (List.nodup_append.mp different).2.2
                  exact absurd rfl (apart code seen code List.mem_cons_self)
          · have distinct' : (earlier ++ [code]).Nodup := by
              rw [List.nodup_append]
              refine ⟨distinct, List.nodup_singleton code, ?_⟩
              intro a ha b hb same
              rw [List.mem_singleton.mp hb] at same
              exact seen (same ▸ ha)
            rw [if_neg seen, ih distinct']
            constructor
            · rintro ⟨more, same, rfl, different⟩
              use code :: more, by rw [same, List.map_cons], List.append_assoc _ _ _, different
            · rintro ⟨more, same, rfl, different⟩
              cases more with
              | nil => cases same
              | cons code' more =>
                  obtain ⟨first, rest⟩ := List.cons.inj same
                  obtain rfl : code = code' := Option.some.inj first
                  use more, rest, (List.append_assoc _ [code] _).symm, different

/-- Reading fails at a part that is no integer or denotes an earlier one. -/
theorem codesFrom_error {parts : List (List Char)} {earlier : List Int} {e : HostError}
    (bad : codesFrom earlier parts = .error e) :
  e = .keyNotInteger ∨ e = .duplicateKey
  := by
  induction parts generalizing earlier with
  | nil => cases bad
  | cons part parts ih =>
      rw [codesFrom] at bad
      split at bad
      · cases bad
        exact .inl rfl
      · split at bad
        · cases bad
          exact .inr rfl
        · exact ih bad

theorem ofText_eq_ok_iff {s : String} {m : Keymap} :
  ofText s = .ok m ↔
    (Text.split ',' s.toList).length = 16 ∧
    (Text.split ',' s.toList).map integer? = m.codes.map some ∧ m.codes.Nodup
  := by
  have read := @codesFrom_eq_ok_iff (Text.split ',' s.toList) [] m.codes List.nodup_nil
  simp only [List.nil_append] at read
  rw [ofText]
  by_cases count : (Text.split ',' s.toList).length = 16
  · rw [if_pos count]
    constructor
    · intro made
      cases codes : codesFrom [] (Text.split ',' s.toList) with
      | error e =>
          rw [codes] at made
          cases made
      | ok codes' =>
          rw [codes] at made
          cases made
          obtain ⟨more, same, rfl, different⟩ := read.mp codes
          exact ⟨count, same, different⟩
    · rintro ⟨-, same, different⟩
      rw [read.mpr ⟨m.codes, same, rfl, different⟩]
      rfl
  · rw [if_neg count]
    constructor
    · rintro ⟨⟩
    · rintro ⟨count', -⟩
      exact absurd count' count

/-- There are three reasons to refuse a text. -/
theorem ofText_error {s : String} {e : HostError} (bad : ofText s = .error e) :
  e ∈ [.keyCount, .keyNotInteger, .duplicateKey]
  := by
  rw [ofText] at bad
  split at bad
  · cases codes : codesFrom [] (Text.split ',' s.toList) with
    | ok codes' =>
        rw [codes] at bad
        cases bad
    | error e' =>
        rw [codes] at bad
        cases bad
        rcases codesFrom_error codes with rfl | rfl <;> decide
  · cases bad
    decide

/-! ### Parts and codes -/

variable {parts : List (List Char)} {codes : List Int}

theorem getElem?_integer? (same : parts.map integer? = codes.map some) (i : Nat) :
  parts[i]?.bind integer? = codes[i]?
  := by
  have key := congrArg (fun denoted => denoted[i]?) same
  simp only [List.getElem?_map] at key
  cases there : parts[i]? with
  | none =>
      rw [there, Option.map_none] at key
      exact (Option.map_eq_none_iff.mp key.symm).symm
  | some part =>
      rw [there, Option.map_some] at key
      obtain ⟨code, found, denoted⟩ := Option.map_eq_some_iff.mp key.symm
      rw [found, Option.bind_some, ← denoted]

theorem nodup_iff_not_clashes (same : parts.map integer? = codes.map some) :
  codes.Nodup ↔ ¬ Clashes parts
  := by
  rw [List.nodup_iff_getElem?_ne_getElem?]
  constructor
  · rintro different ⟨i, j, code, before, first, second⟩
    rw [getElem?_integer? same] at first second
    obtain ⟨inside, -⟩ := List.getElem?_eq_some_iff.mp second
    exact different i j before inside (first.trans second.symm)
  · intro apart i j before inside equal
    have second : codes[j]? = some codes[j] := List.getElem?_eq_getElem inside
    apply apart
    use i, j, codes[j], before
    rw [getElem?_integer? same, getElem?_integer? same, equal]
    exact ⟨second, second⟩

theorem exists_codes_iff :
  (∃ codes : List Int, parts.map integer? = codes.map some) ↔ ∀ part ∈ parts, integer? part ≠ none
  := by
  constructor
  · rintro ⟨codes, same⟩ part here none
    have denoted : integer? part ∈ codes.map some := same ▸ List.mem_map_of_mem here
    obtain ⟨code, -, some⟩ := List.mem_map.mp denoted
    rw [none] at some
    cases some
  · intro integers
    use parts.map fun part => (integer? part).getD 0
    rw [List.map_map]
    apply List.map_congr_left
    intro part here
    obtain ⟨code, denoted⟩ := Option.ne_none_iff_exists'.mp (integers part here)
    rw [Function.comp_apply, denoted, Option.getD_some]

theorem ofText_fails_iff {s : String} :
  (∃ e, ofText s = .error e) ↔
    (Text.split ',' s.toList).length ≠ 16 ∨
    (∃ part ∈ Text.split ',' s.toList, integer? part = none) ∨
    Clashes (Text.split ',' s.toList)
  := by
  constructor
  · rintro ⟨e, bad⟩
    by_contra sound
    rw [not_or, not_or, not_not, not_exists] at sound
    obtain ⟨count, integers, apart⟩ := sound
    obtain ⟨codes, same⟩ := exists_codes_iff.mpr fun part here none => integers part ⟨here, none⟩
    have different := (nodup_iff_not_clashes same).mpr apart
    have good : ofText s = .ok ⟨codes⟩ := ofText_eq_ok_iff.mpr ⟨count, same, different⟩
    rw [bad] at good
    cases good
  · intro unsound
    cases made : ofText s with
    | error e => exact ⟨e, rfl⟩
    | ok m =>
        obtain ⟨count, same, different⟩ := ofText_eq_ok_iff.mp made
        rcases unsound with count' | ⟨part, here, none⟩ | clash
        · exact absurd count count'
        · exact absurd none (exists_codes_iff.mp ⟨m.codes, same⟩ part here)
        · exact absurd clash ((nodup_iff_not_clashes same).mp different)

theorem mem_pairs {m : Keymap} {key : Nat} {code : Int} :
  (key, code) ∈ m.pairs ↔ m.codes[key]? = some code
  := by
  rw [pairs, List.mem_map]
  constructor
  · rintro ⟨⟨code', key'⟩, here, same⟩
    obtain ⟨rfl, rfl⟩ := Prod.mk.inj same
    exact List.mem_zipIdx_iff_getElem?.mp here
  · intro there
    exact ⟨(code, key), List.mem_zipIdx_iff_getElem?.mpr there, rfl⟩

/-- A keymap that was read from a text assigns the integers of its parts. -/
theorem exists_assigns {s : String} {m : Keymap} (made : ofText s = .ok m) :
  ∃ code, Assigns (Text.split ',' s.toList) m code
  := by
  obtain ⟨count, same, different⟩ := ofText_eq_ok_iff.mp made
  have size : m.codes.length = 16 := by
    rw [← count, ← List.length_map some, ← same, List.length_map]
  use fun key => m.codes[key.val]
  refine ⟨?_, ?_, ?_⟩
  · intro key
    rw [getElem?_integer? same, List.getElem?_eq_getElem]
  · intro key key' equal
    exact Fin.ext (different.getElem_inj_iff.mp equal)
  · intro key c
    rw [mem_pairs, List.getElem?_eq_some_iff]
    constructor
    · rintro ⟨inside, equal⟩
      exact ⟨⟨key, size ▸ inside⟩, rfl, equal⟩
    · rintro ⟨key, rfl, equal⟩
      exact ⟨size.symm ▸ key.isLt, equal⟩

end Keymap

/-! ### Looks at the keyboard -/

namespace Keyboard

/-- A snapshot tells of each key whether its code is held down. -/
def Tells (code : Fin 16 → Int) (desktop : Desktop) (keys : KeySnapshot) : Prop :=
  ∀ key : Fin 16, keys.get key = true ↔ code key ∈ desktop.held

/-- Asks for the keys that are held down at one moment after the other. -/
def refreshAll (k : Keyboard) (desktops : List Desktop) : Except HostError Keyboard :=
  desktops.foldlM (fun k desktop => k.refresh (some desktop)) k

variable {held : List Int} {pairs : List (Nat × Int)} {key : Fin 16}

/-- A key keeps its state if no code is given for it. -/
theorem get_takeHeld_of_notMem (down : KeySnapshot) (absent : ∀ code, (key.val, code) ∉ pairs) :
  (takeHeld held down pairs).get key = down.get key
  := by
  induction pairs generalizing down with
  | nil => rfl
  | cons pair pairs ih =>
      obtain ⟨key', code⟩ := pair
      have apart : key' ≠ key.val := fun same => absent code (same ▸ List.mem_cons_self)
      calc (takeHeld held (down.setIfInBounds key' (held.contains code)) pairs).get key
          = (down.setIfInBounds key' (held.contains code)).get key :=
            ih _ fun code here => absent code (List.mem_cons_of_mem _ here)
        _ = down.get key := (Vector.getElem_setIfInBounds key.isLt).trans (if_neg apart)

/-- A key takes the state of its code, whatever its state was, if it is given no other one. -/
theorem get_takeHeld {code : Int} (down : KeySnapshot) (given : (key.val, code) ∈ pairs)
    (only : ∀ code', (key.val, code') ∈ pairs → code' = code) :
  (takeHeld held down pairs).get key = held.contains code
  := by
  induction pairs generalizing down with
  | nil => cases given
  | cons pair pairs ih =>
      obtain ⟨key', code'⟩ := pair
      change (takeHeld held (down.setIfInBounds key' (held.contains code')) pairs).get key = _
      by_cases later : (key.val, code) ∈ pairs
      · exact ih _ later fun code'' here => only code'' (List.mem_cons_of_mem _ here)
      · -- Then no later pair is for the key, and the first one is.
        have absent : ∀ code'', (key.val, code'') ∉ pairs := by
          intro code'' here
          rw [only code'' (List.mem_cons_of_mem _ here)] at here
          exact later here
        obtain ⟨rfl, rfl⟩ : key.val = key' ∧ code = code' := by
          rcases List.mem_cons.mp given with first | rest
          · exact Prod.mk.inj first
          · exact absurd rest later
        rw [get_takeHeld_of_notMem _ absent]
        exact (Vector.getElem_setIfInBounds key.isLt).trans (if_pos rfl)

/-- After a look every key has the state of its code. -/
theorem tells_takeHeld {parts : List (List Char)} {m : Keymap} {code : Fin 16 → Int}
    (assigned : m.Assigns parts code) (desktop : Desktop) (down : KeySnapshot) :
  Tells code desktop (takeHeld desktop.held down m.pairs)
  := by
  intro key
  have given : (key.val, code key) ∈ m.pairs := (assigned.sent _ _).mpr ⟨key, rfl, rfl⟩
  have only : ∀ c, (key.val, c) ∈ m.pairs → c = code key := by
    intro c here
    obtain ⟨key', same, rfl⟩ := (assigned.sent _ _).mp here
    rw [Fin.ext same]
  rw [get_takeHeld down given only, List.contains_iff_mem]

theorem refresh_some {k : Keyboard} (kind : k.kind = .desktop) (desktop : Desktop) :
  k.refresh (some desktop) = .ok { k with down := takeHeld desktop.held k.down k.keymap.pairs }
  := by
  obtain ⟨kind', keymap, down, quitting⟩ := k
  cases kind
  rfl

/-- Looking at the keyboard does not fail, and changes the states of the keys only. -/
theorem refreshAll_eq {k : Keyboard} (kind : k.kind = .desktop) (desktops : List Desktop) :
  ∃ down, k.refreshAll desktops = .ok { k with down := down }
  := by
  induction desktops generalizing k with
  | nil => exact ⟨k.down, rfl⟩
  | cons desktop desktops ih =>
      rw [refreshAll, List.foldlM_cons, refresh_some kind]
      exact @ih { k with down := takeHeld desktop.held k.down k.keymap.pairs } kind

end Keyboard

namespace KeyChannel

/-- The snapshot that was published is in the registers after the next update. -/
theorem update_deliver (p : KeyChannel) (keys : KeySnapshot) (r : Registers) :
  ((p.deliver keys).update r).2.keys = keys
  := rfl

theorem publish_toList (p : KeyChannel) (keys : KeySnapshot) :
  p.publish keys.toList = .ok (p.deliver keys)
  := dif_pos keys.length_toList

end KeyChannel

namespace Keymap

/-- A text is refused exactly if its parts, between the commas, are not sixteen, if one of them is
no integer, or if two of them denote the same integer. Otherwise every key has the integer of its
part and no other key has it. Then at every look, whatever was held before, the snapshot tells of
each key whether its integer is held, and so do the registers of the keys after the snapshot is
published and read. -/
theorem ofText_tells (s : String) :
  ∃ parts, Text.Divides ',' s.toList parts ∧
    ((∃ e, ofText s = .error e) ↔
      parts.length ≠ 16 ∨ (∃ part ∈ parts, integer? part = none) ∨ Clashes parts) ∧
    (∀ e, ofText s = .error e → e ∈ [.keyCount, .keyNotInteger, .duplicateKey]) ∧
    ∀ m, ofText s = .ok m → ∃ code, m.Assigns parts code ∧
      ∀ (looks : List Desktop) (desktop : Desktop) (channel : KeyChannel) (r : Registers),
        ∃ k k' channel',
          (Keyboard.ofKeymap .desktop m).refreshAll looks = .ok k ∧
          k.refresh (some desktop) = .ok k' ∧
          Keyboard.Tells code desktop k'.down ∧
          channel.publish k'.down.toList = .ok channel' ∧
          Keyboard.Tells code desktop (channel'.update r).2.keys
  := by
  use Text.split ',' s.toList, Text.divides_split ',' s.toList, ofText_fails_iff
  refine ⟨fun e bad => ofText_error bad, ?_⟩
  intro m made
  obtain ⟨code, assigned⟩ := exists_assigns made
  use code, assigned
  intro looks desktop channel r
  obtain ⟨down, before⟩ := (Keyboard.ofKeymap .desktop m).refreshAll_eq rfl looks
  have told := Keyboard.tells_takeHeld assigned desktop down
  refine ⟨_, _, _, before, Keyboard.refresh_some rfl desktop, told, channel.publish_toList _, ?_⟩
  rw [KeyChannel.update_deliver]
  apply told

/-- A keymap with blanks, signs and leading zeros. -/
def spacedText : String := " 120,0049,+50,51,113,119,101,97,115,100,122,99,52,114,102,-1"

/-- After a look at which the key with the code `120` was held, those with the codes `49` and `-1`
are held. -/
theorem ofText_tells_spaced :
  ∃ m k k', ofText spacedText = .ok m ∧
    (Keyboard.ofKeymap .desktop m).refreshAll [⟨[], [120]⟩] = .ok k ∧
    k.refresh (some ⟨[], [49, 7, -1]⟩) = .ok k' ∧
    k'.down.get 0 = false ∧ k'.down.get 1 = true ∧ k'.down.get 15 = true
  := by
  obtain ⟨parts, divided, -, -, accepted⟩ := ofText_tells spacedText
  obtain rfl := divided.split_eq
  have made : ofText spacedText =
      .ok ⟨[120, 49, 50, 51, 113, 119, 101, 97, 115, 100, 122, 99, 52, 114, 102, -1]⟩ := by
    decide +kernel
  obtain ⟨code, assigned, told⟩ := accepted _ made
  obtain ⟨k, k', -, before, look, tells, -⟩ :=
    told [⟨[], [120]⟩] ⟨[], [49, 7, -1]⟩ .empty .initial
  refine ⟨_, k, k', made, before, look, ?_, ?_, ?_⟩
  · have code : some 120 = some (code 0) := assigned.denoted 0
    rw [← Bool.not_eq_true, tells, ← Option.some.inj code]
    decide
  · have code : some 49 = some (code 1) := assigned.denoted 1
    rw [tells, ← Option.some.inj code]
    decide
  · have code : some (-1) = some (code 15) := assigned.denoted 15
    rw [tells, ← Option.some.inj code]
    decide

end Keymap

end Chip8
