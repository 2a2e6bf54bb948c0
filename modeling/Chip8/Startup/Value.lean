import Chip8.Numeral.Shortest
import Chip8.Random.Seed
import Chip8.Processor.Rate
import Chip8.Text.Quoted

/-!
# Values

Whoever embeds the program gives the options as values of any kind. A value is taken for true unless
it is nothing, zero or empty, and it can be taken for an option of which it has the kind. A truth
value also counts as one of the integers zero and one.
-/

namespace Chip8

/-- A value of any kind. -/
inductive Value where
  | nothing
  | truth (b : Bool)
  | integer (n : Int)
  | floating (x : Floating)
  | text (s : String)
  | list (items : List Value)
  | record (fields : List (String × Value))

instance : Inhabited Value := ⟨.nothing⟩

namespace Value

/-- Whether a value is taken for true. -/
def isTrue : Value → Bool
  | nothing => false
  | truth b => b
  | integer n => n != 0
  | floating x => !x.isZero
  | text s => s != ""
  | list items => !items.isEmpty
  | record fields => !fields.isEmpty

/-! ### The text of a value -/

mutual

/-- The text of a value. -/
def shown : Value → String
  | nothing => "None"
  | truth b => if b then "True" else "False"
  | integer n => toString n
  | floating x => x.text
  | text s => Text.quoted s
  | list items => "[" ++ ", ".intercalate (shownItems items) ++ "]"
  | record fields => "\x7b" ++ ", ".intercalate (shownFields fields) ++ "\x7d"

/-- The texts of the items of a list. -/
def shownItems : List Value → List String
  | [] => []
  | v :: vs => shown v :: shownItems vs

/-- The texts of the fields of a record. -/
def shownFields : List (String × Value) → List String
  | [] => []
  | (name, v) :: rest => (Text.quoted name ++ ": " ++ shown v) :: shownFields rest

end

/-! ### Kinds -/

/-- The integer that a value is. -/
def toInteger? : Value → Option Int
  | integer n => some n
  | truth b => some (if b then 1 else 0)
  | _ => none

/-- The text that a value is. -/
def toText? : Value → Option String
  | text s => some s
  | _ => none

/-- The name that a value gives: the text that it is, or else the text of what is taken for true. -/
def toName? : Value → Option String
  | text s => some s
  | v => if v.isTrue then some v.shown else none

/-- The seed that a value is. -/
def toSeed? : Value → Option Seed
  | floating x => some (.floating x)
  | text s => some (.text s)
  | v => v.toInteger?.map .integer

/-- The rate that a value is. -/
def toRate? : Value → Option Rate
  | floating x => some (.floating x)
  | v => v.toInteger?.map .integer

end Value

end Chip8
