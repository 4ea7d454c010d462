import LSystem.Action.Basic

namespace LSystem.ActionCode

def skip : Int := -1

def nothing : Int := 0

def forward : Int := 1

def push : Int := 2

def pop : Int := 3

def firstRotation : Int := 4

def of : Option Action → Int
  | none => skip
  | some .nothing => nothing
  | some .forward => forward
  | some .push => push
  | some .pop => pop
  | some (.rotate d) => firstRotation + d.index

end LSystem.ActionCode
