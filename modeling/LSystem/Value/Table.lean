import LSystem.Value.Number

namespace LSystem

structure Table (α : Type) where
  sides : List Nat
  cells : List α

inductive TableError where
  | uneven
  | mismatch (cause : Mismatch)

def TableError.message : TableError → String
  | .uneven => "the items of a table differ in their sides"
  | .mismatch cause => cause.message

namespace Value

mutual

def sides? : Value → Option (List Nat)
  | .list items => (commonSides? items).map (items.length :: ·)
  | _ => some []

def commonSides? : List Value → Option (List Nat)
  | [] => some []
  | [v] => sides? v
  | v :: w :: rest => do
    let sides ← sides? v
    if (← commonSides? (w :: rest)) = sides then some sides else none

end

mutual

def cells : Value → List Value
  | .list items => cellsOf items
  | v => [v]

def cellsOf : List Value → List Value
  | [] => []
  | v :: rest => cells v ++ cellsOf rest

end

end Value

namespace Table

variable {α : Type}

def maxSides : Nat := 64

def ofValue (f : Value → Except Mismatch α) (v : Value) : Except TableError (Table α) := do
  let some sides := v.sides? | throw .uneven
  if maxSides < sides.length then throw .uneven
  return ⟨sides, ← (v.cells.mapM f).mapError .mismatch⟩

end Table

end LSystem
