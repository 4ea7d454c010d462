import LSystem.Trace.Basic

namespace LSystem.Trace

variable {α : Type}

/-- The place after the last number in `a` that is at most `key`, between the places `lo` and `hi`.
-/
def bisect (a : Array Int) (key : Int) (lo hi : Nat) : Nat :=
  if h : lo < hi then
    let mid := lo + (hi - lo) / 2
    if a.getD mid 0 ≤ key then bisect a key (mid + 1) hi else bisect a key lo mid
  else lo
termination_by hi - lo

def innerOffsets (t : Trace α) : Array Int :=
  t.offsets.extract 1 (t.offsets.size - 1)

def shifts (t : Trace α) : List Nat :=
  let inner := t.innerOffsets
  ((List.range t.pointCount).foldl
    (fun (s : Nat × List Nat) (p : Nat) =>
      let k := bisect inner p s.1 inner.size
      (k, k :: s.2))
    (0, [])).2.reverse

def rows (t : Trace α) (mark : Point α) : Array (Point α) :=
  ((t.coords.toList.zip t.shifts).zipIdx).foldl
    (fun rows e => rows.setIfInBounds (e.2 + e.1.2) e.1.1)
    (Array.replicate t.vertexCount mark)

def breakRow : Point Float :=
  let least := -1 / 0
  ⟨least, least, least⟩

def sentinelRows (t : Trace Float) : Array (Point Float) :=
  t.rows breakRow

end LSystem.Trace
