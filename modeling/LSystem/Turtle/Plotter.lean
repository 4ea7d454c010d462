import LSystem.Turtle.Code
import LSystem.Turtle.Walk

/-!
Drawing into buffers that are made once.

The plotter takes action codes. It has a buffer of rows, one for each code and one more for each
return, and a buffer for the places kept, as many as there are codes that keep one. It stops if it
would write or read outside of a buffer, read a place that it has not written, or turn in a
direction that is none.
-/

namespace LSystem

inductive PlotRow (α : Type) where
  | blank
  | vertex (p : Point α)
  | lineBreak
  deriving Repr

structure Plotter (α : Type) where
  cursor : Cursor α
  rows : Array (PlotRow α)
  written : Nat
  stack : Array (Option (Cursor α))
  depth : Nat

namespace Plotter

variable {α : Type}

def create [Zero α] [One α] (rows places : Nat) : Plotter α where
  cursor := Turtle.home
  rows := Array.replicate rows .blank
  written := 0
  stack := Array.replicate places none
  depth := 0

def write? (p : Plotter α) (row : PlotRow α) : Option (Plotter α) :=
  if p.written < p.rows.size then
    some { p with rows := p.rows.setIfInBounds p.written row, written := p.written + 1 }
  else none

def keep? (p : Plotter α) : Option (Plotter α) :=
  if p.depth < p.stack.size then
    some { p with stack := p.stack.setIfInBounds p.depth (some p.cursor), depth := p.depth + 1 }
  else none

def return? (p : Plotter α) : Option (Plotter α) :=
  match p.stack[p.depth - 1]?.join with
  | some c => some { p with cursor := c, depth := p.depth - 1 }
  | none => none

def turn? [Add α] [Mul α] (rotations : Rotations α) (p : Plotter α) (place : Int) :
    Option (Plotter α) :=
  match rotations[place.toNat]? with
  | some r => some { p with cursor.orientation := p.cursor.orientation.mul r }
  | none => none

def step? [Add α] [Mul α] (rotations : Rotations α) (length : α) (p : Plotter α) (code : Int) :
    Option (Plotter α) :=
  if code = ActionCode.nothing then p.write? (.vertex p.cursor.position)
  else if code = ActionCode.forward then
    let q := p.cursor.orientation.ahead length p.cursor.position
    { p with cursor.position := q }.write? (.vertex q)
  else if code = ActionCode.push then p.keep?
  else if code = ActionCode.pop then
    if p.depth = 0 then some p
    else do
      let p ← p.return?
      let p ← p.write? .lineBreak
      p.write? (.vertex p.cursor.position)
  else if ActionCode.firstRotation ≤ code then p.turn? rotations (code - ActionCode.firstRotation)
  else some p

def run? [Add α] [Mul α] (rotations : Rotations α) (length : α) (p : Plotter α)
    (codes : Array Int) : Option (Plotter α) :=
  codes.foldlM (fun p code => p.step? rotations length code) p

def output (p : Plotter α) : Array (PlotRow α) :=
  p.rows.extract 0 p.written

end Plotter

structure RowReader (α : Type) where
  trace : Trace α
  place : Nat
  breaks : Nat

def RowReader.read {α : Type} (r : RowReader α) : PlotRow α → RowReader α
  | .blank => { r with place := r.place + 1 }
  | .vertex p =>
    { r with trace := { r.trace with coords := r.trace.coords.push p }, place := r.place + 1 }
  | .lineBreak =>
    let offset : Int := r.place - r.breaks
    { trace := { r.trace with offsets := r.trace.offsets.push offset }
      place := r.place + 1
      breaks := r.breaks + 1 }

def Trace.ofRows {α : Type} (rows : Array (PlotRow α)) : Trace α :=
  (rows.foldl RowReader.read ⟨⟨#[], #[0]⟩, 0, 0⟩).trace.close

namespace Turtle

variable {α : Type}

def plotterFor [Zero α] [One α] (codes : Array Int) : Plotter α :=
  .create (codes.size + codes.count ActionCode.pop) (max (codes.count ActionCode.push) 1)

def plot [Zero α] [One α] [Add α] [Mul α] (rotations : Rotations α) (length : α)
    (codes : Array Int) : Trace α :=
  match (plotterFor codes).run? rotations length codes with
  | some p => .ofRows p.output
  | none => .empty

end Turtle

end LSystem
