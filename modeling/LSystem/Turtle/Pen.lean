import LSystem.Value.Number

namespace LSystem

structure Pen where
  segmentLength : Float
  rotationAngle : Float

inductive PenError where
  | badLength (given : Value)
  | badAngle (given : Value)
  | mismatch (cause : Mismatch)

def PenError.message : PenError → String
  | .badLength given => "segment_length は正の有限値である必要があります: got=" ++ given.literal
  | .badAngle given => "rotation_angle は有限値である必要があります: got=" ++ given.literal
  | .mismatch cause => cause.message

def Pen.ofValues (length angle : Value) : Except PenError Pen := do
  let l ← length.toReal.mapError .mismatch
  let a ← angle.toReal.mapError .mismatch
  if !l.isFinite || l ≤ 0 then throw (.badLength length)
  if !a.isFinite then throw (.badAngle angle)
  return ⟨l, a⟩

end LSystem
