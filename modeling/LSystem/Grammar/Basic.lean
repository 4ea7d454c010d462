import LSystem.Dictionary
import LSystem.Value.Key

namespace LSystem

structure Grammar where
  start : List Int
  /-- What replaces an id; an id without a production stays. -/
  productions : Dictionary Int (List Int)
  alphabet : Array (Option String)

namespace Grammar

def hasProduction (g : Grammar) (id : Int) : Bool :=
  (g.productions.get? id).isSome

def production (g : Grammar) (id : Int) : List Int :=
  (g.productions.get? id).getD [id]

def occurring (g : Grammar) : List Int :=
  g.start ++ g.productions.map Prod.fst ++ g.productions.flatMap Prod.snd

/-- The least count of ids from zero on that takes in the alphabet and every id that occurs. -/
def idCount (g : Grammar) : Nat :=
  g.occurring.foldl (fun n id => max n (id + 1).toNat) g.alphabet.size

def symbolOf (g : Grammar) (id : Int) : String :=
  if id < 0 then "?" else (g.alphabet[id.toNat]?.join).getD "?"

def decode (g : Grammar) (ids : List Int) : String :=
  ids.foldl (fun s id => s ++ g.symbolOf id) ""

/-- Productions under the same key are one, with the place of the first and what the last says. Of
two keys that are taken as the same id the later one counts. -/
def ofValues (start : List Value) (productions : List (Value × List Value))
    (alphabet : Array (Option String)) : Except Mismatch Grammar := do
  if !productions.all fun p => p.1.isKey then throw .wrongKind
  let start ← start.mapM Value.toInteger
  let productions ← (Value.gather productions).mapM fun p => do
    return (← p.1.toInteger, ← p.2.mapM Value.toInteger)
  return ⟨start, Dictionary.override [] productions, alphabet⟩

theorem production_of_hasProduction_eq_false {g : Grammar} {id : Int}
    (h : g.hasProduction id = false) : g.production id = [id] := by
  simp_all [hasProduction, production]

end Grammar

end LSystem
