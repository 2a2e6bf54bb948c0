import Chip8.Command.Switch
import Chip8.Numeral.Digit

/-!
# Tokens of a command line

Each argument is first read on its own. It names a switch if it is the name, or the beginning of
one long name, perhaps followed by an equals sign and a value, or if it begins with a short name.
Behind a short name stands a value or, if the switch takes none, the letters of further switches,
so that one argument may hold a row of switches. A number with a minus sign is no switch, nor is a
text with a space which only begins like one, and behind a double hyphen there are no switches at
all.
-/

namespace Chip8.Command

/-- A part of a command line. -/
inductive Token where
  /-- A value or the name of a file. -/
  | plain (text : String)
  /-- The double hyphen behind which there are no switches. -/
  | separator
  /-- Switches that take no value. -/
  | flags (row : List Switch)
  /-- A switch with its value, behind switches that take none. -/
  | assigned (row : List Switch) (s : Switch) (value : String)
  /-- A switch that takes its value from the next argument, behind switches that take none. -/
  | awaiting (row : List Switch) (s : Switch)
  /-- A text that looks like a switch and names none. -/
  | unknown (text : String)
  /-- A switch with a text attached to it that it does not take. -/
  | faulty (r : Refusal)
deriving DecidableEq

namespace Token

/-- The token of a switch behind a row of others, with nothing attached to it. -/
def bare (row : List Switch) (s : Switch) : Token :=
  if s.takesValue then .awaiting row s else .flags (row ++ [s])

/-- The token of a switch behind a row of others, with a value attached to it. -/
def valued (row : List Switch) (s : Switch) (value : List Char) : Token :=
  if s.takesValue then .assigned row s (String.ofList value)
  else .faulty (.ignoredValue s (String.ofList value))

/-- The token of a switch behind a row of others, with a text attached to its letter. If the switch
takes no value and the text begins with the letter of another switch, the row goes on with that
one. -/
def lettered (row : List Switch) (s : Switch) : List Char → Token
  | [] => valued row s []
  | c :: cs =>
      match if s.takesValue then none else Switch.ofLetter? c, cs with
      | none, _ => valued row s (c :: cs)
      | some next, [] => bare (row ++ [s]) next
      | some next, d :: rest => lettered (row ++ [s]) next (d :: rest)

/-! ### Names -/

/-- Whether a name is a single letter. -/
def isShort : List Char → Bool
  | '-' :: '-' :: _ => false
  | _ => true

/-- What stands before the first equals sign, and what stands behind it, if there is one. -/
def splitMark : List Char → List Char × Option (List Char)
  | [] => ([], none)
  | '=' :: cs => ([], some cs)
  | c :: cs =>
      let (before, behind) := splitMark cs
      (c :: before, behind)

/-- The token of an argument that names a switch, perhaps with a text behind an equals sign. -/
def ofName? (argument : List Char) : Option Token :=
  match Switch.ofName? (String.ofList argument), splitMark argument with
  | some s, _ => some (bare [] s)
  | none, (_, none) => none
  | none, (name, some text) =>
      (Switch.ofName? (String.ofList name)).map fun s =>
        if isShort name then lettered [] s text else valued [] s text

/-- The readings of an argument as an abbreviation, each with the name of its switch: it may be the
beginning of long names, or a short name with a text attached to it. -/
def abbreviations : List Char → List (String × Token)
  | '-' :: '-' :: cs =>
      let (start, behind) := splitMark ('-' :: '-' :: cs)
      (Switch.named.filter fun (name, _) => start.isPrefixOf name.toList).map fun (name, s) =>
        (name, behind.elim (bare [] s) (valued [] s))
  | '-' :: c :: cs =>
      match Switch.ofLetter? c with
      | none => []
      | some s => [(String.ofList ['-', c], lettered [] s cs)]
  | _ => []

/-! ### Arguments -/

/-- Whether a text is a number with a minus sign: digits, or a point with digits behind it. A line
feed may follow. -/
def isNegativeNumber : List Char → Bool
  | '-' :: cs =>
      let isDigit := fun c => (Digit.value? c).isSome
      let cs := if cs.getLast? = some '\n' then cs.dropLast else cs
      match cs.dropWhile isDigit with
      | [] => !cs.isEmpty
      | '.' :: rest => !rest.isEmpty && rest.all isDigit
      | _ => false
  | _ => false

/-- The token of an argument. -/
def ofArgument (argument : String) : Except Refusal Token :=
  let cs := argument.toList
  if cs.head? ≠ some '-' ∨ cs = ['-'] then .ok (.plain argument)
  else
    match ofName? cs, abbreviations cs with
    | some token, _ => .ok token
    | none, [(_, token)] => .ok token
    | none, [] =>
        if isNegativeNumber cs || cs.contains ' ' then .ok (.plain argument)
        else .ok (.unknown argument)
    | none, several => .error (.ambiguous argument (several.map Prod.fst))

/-- The tokens of a row of arguments. -/
def ofArguments : List String → Except Refusal (List Token)
  | [] => .ok []
  | argument :: arguments =>
      if argument = "--" then .ok (.separator :: arguments.map .plain)
      else do return (← ofArgument argument) :: (← ofArguments arguments)

end Token

end Chip8.Command
