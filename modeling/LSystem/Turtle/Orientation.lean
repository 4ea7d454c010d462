import LSystem.Direction

namespace LSystem

structure Point (α : Type) where
  x : α
  y : α
  z : α
  deriving DecidableEq, Repr, Inhabited

structure Orientation (α : Type) where
  xx : α
  xy : α
  xz : α
  yx : α
  yy : α
  yz : α
  zx : α
  zy : α
  zz : α
  deriving DecidableEq, Repr, Inhabited

namespace Point

variable {α : Type}

def origin [Zero α] : Point α := ⟨0, 0, 0⟩

end Point

namespace Orientation

variable {α : Type}

def identity [Zero α] [One α] : Orientation α := ⟨1, 0, 0, 0, 1, 0, 0, 0, 1⟩

def mul [Add α] [Mul α] (r s : Orientation α) : Orientation α where
  xx := r.xx * s.xx + r.xy * s.yx + r.xz * s.zx
  xy := r.xx * s.xy + r.xy * s.yy + r.xz * s.zy
  xz := r.xx * s.xz + r.xy * s.yz + r.xz * s.zz
  yx := r.yx * s.xx + r.yy * s.yx + r.yz * s.zx
  yy := r.yx * s.xy + r.yy * s.yy + r.yz * s.zy
  yz := r.yx * s.xz + r.yy * s.yz + r.yz * s.zz
  zx := r.zx * s.xx + r.zy * s.yx + r.zz * s.zx
  zy := r.zx * s.xy + r.zy * s.yy + r.zz * s.zy
  zz := r.zx * s.xz + r.zy * s.yz + r.zz * s.zz

def rows (r : Orientation α) : List (List α) :=
  [[r.xx, r.xy, r.xz], [r.yx, r.yy, r.yz], [r.zx, r.zy, r.zz]]

def ahead [Add α] [Mul α] (r : Orientation α) (step : α) (p : Point α) : Point α :=
  ⟨p.x + r.xy * step, p.y + r.yy * step, p.z + r.zy * step⟩

/-- The right-handed rotation about an axis by the angle with cosine `c` and sine `s`. -/
def about [Zero α] [One α] [Neg α] (a : Axis) (c s : α) : Orientation α :=
  match a with
  | .x => ⟨1, 0, 0, 0, c, -s, 0, s, c⟩
  | .y => ⟨c, 0, s, 0, 1, 0, -s, 0, c⟩
  | .z => ⟨c, -s, 0, s, c, 0, 0, 0, 1⟩

end Orientation

abbrev Rotations (α : Type) := Vector (Orientation α) 6

namespace Rotations

variable {α : Type}

def ofFunction (f : Direction → Orientation α) : Rotations α :=
  #v[f .xPos, f .xNeg, f .yPos, f .yNeg, f .zPos, f .zNeg]

def of (r : Rotations α) (d : Direction) : Orientation α :=
  r[d.index]

@[simp] theorem of_ofFunction (f : Direction → Orientation α) (d : Direction) :
    (ofFunction f).of d = f d := by
  cases d <;> rfl

/-- The rotations by an angle whose cosine and sine are `c` and `s`, and by the opposite angle,
whose cosine and sine are `c'` and `s'`. -/
def ofAngle [Zero α] [One α] [Neg α] (c s c' s' : α) : Rotations α :=
  ofFunction fun d =>
    if d.isPositive then .about d.axis c s else .about d.axis c' s'

def degree : Float := 0.017453292519943295

def ofDegrees (angle : Float) : Rotations Float :=
  let forth := angle * degree * 1
  let back := angle * degree * -1
  .ofAngle forth.cos forth.sin back.cos back.sin

def ofDegrees? (angle : Float) : Option (Rotations Float) :=
  if angle.isInf then none else some (ofDegrees angle)

end Rotations

end LSystem
