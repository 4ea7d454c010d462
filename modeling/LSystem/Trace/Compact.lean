import LSystem.Trace.Basic
import LSystem.Value.Table

namespace LSystem

inductive TraceError where
  | notRows
  | fewOffsets
  | firstOffset
  | lastOffset
  | decreasing
  | table (cause : TableError)
  | badShape

def TraceError.message : TraceError → String
  | .notRows => "coords は shape (N,3) の 2 次元配列である必要がある"
  | .fewOffsets => "offsets は 2 要素以上の 1 次元配列である必要がある"
  | .firstOffset => "offsets[0] は 0 である必要がある"
  | .lastOffset => "offsets[-1] は coords 行数と一致する必要がある"
  | .decreasing => "offsets は単調非減少である必要がある"
  | .table cause => cause.message
  | .badShape => "the numbers do not fill the shape"

namespace Trace

variable {α : Type}

def wordDifference (a b : Int) : Int :=
  (a - b).bmod (2 * Value.halfWord)

def ofParts (coords : Array (Point α)) (offsets : Array Int) : Except TraceError (Trace α) :=
  if offsets.size < 2 then .error .fewOffsets
  else if offsets[0]? ≠ some 0 then .error .firstOffset
  else if offsets.back? ≠ some (coords.size : Int) then .error .lastOffset
  else if (neighbours offsets.toList).any fun e => wordDifference e.2 e.1 < 0 then
    .error .decreasing
  else .ok ⟨coords, offsets⟩

def shapeOf (v : Value) : Except TraceError (List Int) := do
  let items ← match v with
    | .int n => pure [Value.int n]
    | v => match v.members? with
      | some items => pure items
      | none => throw (.table (.mismatch .wrongKind))
  if Table.maxSides < items.length then throw .badShape
  items.mapM fun
    | .int n => if Value.fitsWord n then .ok n else .error .badShape
    | _ => .error (.table (.mismatch .wrongKind))

def wordProduct? (ns : List Nat) : Option Nat :=
  ns.foldlM (fun m n => if m * n < Value.halfWord then some (m * n) else none) 1

def cellBytes : Nat := 8

/-- The shape in which `n` numbers are laid out, where one side may have to be found from the
others. `none` if the numbers do not fill it, or if it is beyond all bounds: sides of zero do not
make the others smaller. -/
def fill? (n : Nat) (shape : List Int) : Option (List Nat) := do
  let known ← wordProduct? ((shape.filter (0 ≤ ·)).map Int.toNat)
  let filled ← match shape.filter (· < 0) with
    | [] => if known = n then some (shape.map Int.toNat) else none
    | [_] =>
      if known = 0 ∨ n % known ≠ 0 then none
      else some (shape.map fun k => if k < 0 then n / known else k.toNat)
    | _ => none
  let _ ← wordProduct? (cellBytes :: filled.filter (0 < ·))
  return filled

def coordinate (v : Value) : Except Mismatch Float :=
  match v with
  | .null => .ok (0 / 0)
  | v => v.toReal

def points : List Float → Array (Point Float) → Array (Point Float)
  | x :: y :: z :: rest, read => points rest (read.push ⟨x, y, z⟩)
  | _, read => read

def ofValues (coords : Value) (shape : Option Value) (offsets : Value) :
    Except TraceError (Trace Float) := do
  let numbers ← (Table.ofValue coordinate coords).mapError .table
  let sides ← match shape with
    | none => pure numbers.sides
    | some shape =>
      let some sides := fill? numbers.cells.length (← shapeOf shape) | throw .badShape
      pure sides
  let offsets ← (Table.ofValue Value.toWord offsets).mapError .table
  if sides[1]? ≠ some 3 ∨ sides.length ≠ 2 then throw .notRows
  if offsets.sides.length ≠ 1 then throw .fewOffsets
  ofParts (points numbers.cells #[]) offsets.cells.toArray

/-- The trace of items whose coordinates are given by values. Coordinates that are tables of the
same sides become rows of three too, and may be more than the offsets count. -/
def ofItemValues (items : List (TraceItem Value)) : Except TraceError (Trace Float) := do
  let t := ofItems items
  let rows := t.coords.toList.map fun p => Value.list [p.x, p.y, p.z]
  let numbers ← (Table.ofValue coordinate (.list rows)).mapError .table
  ofParts (points numbers.cells #[]) t.offsets

end Trace

end LSystem
