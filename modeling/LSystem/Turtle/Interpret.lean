import LSystem.Token.Table
import LSystem.Turtle.Pen
import LSystem.Turtle.Plotter
import LSystem.Value.Table

namespace LSystem

structure Missing where

inductive Resolver where
  | mapping (actions : Dictionary Int Action)
  | callable (answer : Int → Except Missing (Option Action))

namespace Resolver

def action? : Resolver → Int → Option Action
  | .mapping actions, id => actions.get? id
  | .callable answer, id =>
    match answer id with
    | .ok a => a
    | .error _ => none

instance : Coe (Int → Option Action) Resolver :=
  ⟨fun answer => .callable fun id => .ok (answer id)⟩

end Resolver

namespace Turtle

def distinct (ids : Array Int) : Array Int :=
  (ids.toList.eraseDups.mergeSort (· ≤ ·)).toArray

def inverse (ids : Array Int) : Array Nat :=
  let distinct := distinct ids
  ids.map fun id => distinct.idxOf id

def codeTable (resolve : Resolver) (distinct : Array Int) : Array Int :=
  distinct.map fun id => ActionCode.of (resolve.action? id)

def codes (resolve : Resolver) (ids : Array Int) : Array Int :=
  let table := codeTable resolve (distinct ids)
  (inverse ids).map fun place => table.getD place ActionCode.skip

def interpret (resolve : Resolver) (pen : Pen) (ids : Array Int) : Trace Float :=
  if ids.isEmpty then .empty
  else plot (.ofDegrees pen.rotationAngle) pen.segmentLength (codes resolve ids)

/-- A sequence has no place for an id beyond a word. -/
def interpretIds (resolve : Resolver) (pen : Pen) (ids : Array Int) :
    Except Mismatch (Trace Float) :=
  if ids.all Value.fitsWord then .ok (interpret resolve pen ids) else .error .outOfRange

def idsOfSymbols (t : TokenTable) (symbols : List Value) : Except TokenError (Array Int) :=
  (symbols.mapM fun v => (t.lookup v).map fun e => (e.id : Int)).map List.toArray

inductive SequenceError where
  | table (cause : TableError)
  | notAction (given : Value)

def idsOfValue (v : Value) : Except TableError (Array Int) := do
  let some members := v.members? | throw (.mismatch .wrongKind)
  let table ← Table.ofValue Value.toWord (.list members)
  return table.cells.toArray

def interpretValue (actions : Dictionary Int (Offer Action)) (pen : Pen) (sequence : Value) :
    Except SequenceError (Trace Float) := do
  let ids ← (idsOfValue sequence).mapError .table
  let resolve (id : Int) : Except SequenceError (Option Action) :=
    match actions.get? id with
    | none | some (.other .null) => .ok none
    | some (.proper a) => .ok (some a)
    | some (.other v) => .error (.notAction v)
  ids.forM fun id => (resolve id).map fun _ => ()
  return interpret (fun id => (resolve id).toOption.join) pen ids

end Turtle

end LSystem
