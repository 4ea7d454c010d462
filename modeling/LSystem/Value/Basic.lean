import LSystem.Decimal.Shortest
import LSystem.Text.Quoted

namespace LSystem

inductive Value where
  | null
  | bool (b : Bool)
  | int (n : Int)
  | real (x : Float)
  | text (s : String)
  | list (items : List Value)
  | mapping (entries : List (String × Value))
  deriving Inhabited

namespace Value

mutual

def literal : Value → String
  | .null => "None"
  | .bool true => "True"
  | .bool false => "False"
  | .int n => toString n
  | .real x => Decimal.exactText x
  | .text s => Text.quoted s
  | .list items => "[" ++ ", ".intercalate (literals items) ++ "]"
  | .mapping entries => "\x7b" ++ ", ".intercalate (entryLiterals entries) ++ "\x7d"

def literals : List Value → List String
  | [] => []
  | v :: rest => v.literal :: literals rest

def entryLiterals : List (String × Value) → List String
  | [] => []
  | (key, v) :: rest => (Text.quoted key ++ ": " ++ v.literal) :: entryLiterals rest

end

/-- A value as a text: a text is itself, anything else is as messages show it. -/
def toText : Value → String
  | .text s => s
  | v => v.literal

@[simp] theorem toText_text (s : String) : (text s).toText = s := rfl

/-- The values that stand for "nothing given": null, false, zeros and whatever is empty. -/
def isVacant : Value → Bool
  | .null => true
  | .bool b => !b
  | .int n => n == 0
  | .real x => x == 0
  | .text s => s.isEmpty
  | .list items => items.isEmpty
  | .mapping entries => entries.isEmpty

/-- The members of a value that has any: the items of a list, the characters of a text, the keys of
a mapping. -/
def members? : Value → Option (List Value)
  | .list items => some items
  | .text s => some (s.toList.map fun c => .text c.toString)
  | .mapping entries => some (entries.map fun e => .text e.1)
  | _ => none

def symbol? : Value → Option Char
  | .text s => match s.toList with
    | [c] => some c
    | _ => none
  | _ => none

@[simp] theorem symbol?_toString (c : Char) : (text c.toString).symbol? = some c := by
  simp [symbol?]

end Value

inductive Offer (α : Type) where
  | proper (a : α)
  | other (v : Value)

end LSystem
