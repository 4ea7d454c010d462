import LSystem.Turtle.Orientation

/-!
Traces: what a turtle has drawn.

A trace is a sequence of vertices and of breaks, where a line ends and the next vertex begins
another. Its compact form holds the vertices in one array, and the runs between the breaks as the
places at which they begin, with the count of all vertices at the end. Runs may be empty, so that no
break is lost.
-/

namespace LSystem

inductive TraceItem (α : Type) where
  | vertex (p : Point α)
  | lineBreak
  deriving DecidableEq, Repr

structure Trace (α : Type) where
  coords : Array (Point α)
  offsets : Array Int

namespace Trace

variable {α : Type}

def empty : Trace α := ⟨#[], #[0, 0]⟩

instance : Inhabited (Trace α) := ⟨empty⟩

/-- Adds an item at the end of a trace whose last offset is not set yet. -/
def pushItem (t : Trace α) : TraceItem α → Trace α
  | .vertex p => { t with coords := t.coords.push p }
  | .lineBreak => { t with offsets := t.offsets.push t.coords.size }

def close (t : Trace α) : Trace α :=
  { t with offsets := t.offsets.push t.coords.size }

def ofItems (items : List (TraceItem α)) : Trace α :=
  (items.foldl pushItem ⟨#[], #[0]⟩).close

def pointCount (t : Trace α) : Nat := t.coords.size

def runCount (t : Trace α) : Nat := t.offsets.size - 1

def breakCount (t : Trace α) : Nat := t.offsets.size - 2

def vertexCount (t : Trace α) : Nat := t.pointCount + t.breakCount

def neighbours : List Int → List (Int × Int)
  | a :: b :: rest => (a, b) :: neighbours (b :: rest)
  | _ => []

def bounds (t : Trace α) : List (Int × Int) :=
  neighbours t.offsets.toList

/-- A place in an array of `n`: one below zero counts from the end, and one outside is moved to the
nearest end. -/
def clampPlace (n : Nat) (i : Int) : Nat :=
  if i < 0 then (i + n).toNat else min i.toNat n

def slice (t : Trace α) (a b : Int) : List (Point α) :=
  let n := t.coords.size
  (t.coords.extract (clampPlace n a) (clampPlace n b)).toList

def runs (t : Trace α) : List (List (Point α)) :=
  t.bounds.map fun e => t.slice e.1 e.2

def items (t : Trace α) : List (TraceItem α) :=
  match t.runs with
  | [] => []
  | first :: rest =>
    first.map .vertex ++ rest.flatMap fun run => .lineBreak :: run.map .vertex

end Trace

end LSystem
