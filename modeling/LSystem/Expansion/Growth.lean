import LSystem.Expansion.Table

namespace LSystem

structure GrowthError where
  length : Nat
  limit : Int
  generation : Nat
  deriving DecidableEq, Repr

def GrowthError.isWritten (e : GrowthError) : Bool :=
  Decimal.isWritten e.length && Decimal.isWritten e.limit && Decimal.isWritten e.generation

def GrowthError.message (e : GrowthError) : String :=
  "展開結果が大きすぎます（iterations / rules を見直してください）: generation=" ++ toString e.generation
    ++ " length=" ++ toString e.length ++ " max=" ++ toString e.limit

namespace Grammar

/-- Makes `left` generations from `ids`, the first of them being number `number`. -/
def expandFrom (t : ProductionTable) (limit : Option Int) (number : Nat) :
    Nat → Array Int → Except GrowthError (Array Int)
  | 0, ids => .ok ids
  | left + 1, ids =>
    if !ids.any t.isReplaced then .ok ids
    else
      let length := t.nextLength ids
      match limit.filter fun l => l < (length : Int) with
      | some l => .error ⟨length, l, number⟩
      | none =>
        if length = 0 then .ok #[]
        else expandFrom t limit (number + 1) left (t.gather ids)

def expand (g : Grammar) (iterations : Nat) (limit : Option Int) :
    Except GrowthError (Array Int) :=
  let ids := g.start.toArray
  if iterations = 0 || ids.isEmpty || g.productions.isEmpty then .ok ids
  else expandFrom (.ofGrammar g) limit 1 iterations ids

end Grammar

inductive CountError where
  | mismatch (cause : Mismatch)
  | negative (given : Value)

def CountError.message : CountError → String
  | .mismatch cause => cause.message
  | .negative given => "iterations は 0 以上である必要があります: got=" ++ given.literal

def Value.toCount (v : Value) : Except CountError Nat :=
  match v.toInteger with
  | .error cause => .error (.mismatch cause)
  | .ok n =>
    if 0 ≤ n then .ok n.toNat
    else .error (if Decimal.isWritten n then .negative v else .mismatch .unwritten)

def Value.toLimit : Value → Except Mismatch (Option Int)
  | .null => .ok none
  | v => v.toInteger.map some

inductive ExpansionError where
  | count (cause : CountError)
  | mismatch (cause : Mismatch)
  /-- The bytes of a table of all ids that occur cannot be counted by a word. -/
  | tooManyIds
  | outOfMemory
  | growth (cause : GrowthError)

def ExpansionError.message : ExpansionError → String
  | .count cause => cause.message
  | .mismatch cause => cause.message
  | .tooManyIds => "too many ids"
  | .outOfMemory => "out of memory"
  | .growth cause => cause.message

/-- A refusal whose numbers cannot be written has no message and is not raised as itself. -/
def ExpansionError.ofGrowth (e : GrowthError) : ExpansionError :=
  if e.isWritten then .growth e else .mismatch .unwritten

namespace Grammar

def expandUnder (g : Grammar) (iterations : Nat) (limit : Value) :
    Except ExpansionError (Array Int) := do
  let limit ← limit.toLimit.mapError .mismatch
  (g.expand iterations limit).mapError .ofGrowth

def expandText (g : Grammar) (iterations : Nat) (limit : Option Int) :
    Except ExpansionError String :=
  ((g.expand iterations limit).mapError .ofGrowth).map fun ids => g.decode ids.toList

def idBytes : Nat := 8

/-- Whether a table of all ids that occur can be made where there is room for one of `room` ids. -/
def checkTable (room : Nat) (g : Grammar) (iterations : Nat) : Except ExpansionError Unit :=
  if iterations = 0 ∨ g.start = [] ∨ g.productions = [] then .ok ()
  else if Value.halfWord ≤ idBytes * g.idCount then .error .tooManyIds
  else if room < g.idCount then .error .outOfMemory
  else .ok ()

def expandWith (room : Nat) (g : Grammar) (iterations limit : Value) :
    Except ExpansionError (Array Int) := do
  let n ← iterations.toCount.mapError .count
  let _ ← limit.toLimit.mapError .mismatch
  if !g.start.all Value.fitsWord then throw (.mismatch .outOfRange)
  checkTable room g n
  g.expandUnder n limit

end Grammar

end LSystem
