namespace LSystem

inductive Axis where
  | x | y | z
  deriving DecidableEq, Repr

def Axis.index : Axis → Nat
  | .x => 0
  | .y => 1
  | .z => 2

inductive Direction where
  | xPos | xNeg | yPos | yNeg | zPos | zNeg
  deriving DecidableEq, Repr

namespace Direction

def all : List Direction :=
  [xPos, xNeg, yPos, yNeg, zPos, zNeg]

theorem mem_all (d : Direction) : d ∈ all := by
  cases d <;> simp [all]

def axis : Direction → Axis
  | xPos | xNeg => .x
  | yPos | yNeg => .y
  | zPos | zNeg => .z

def isPositive : Direction → Bool
  | xPos | yPos | zPos => true
  | xNeg | yNeg | zNeg => false

def opposite : Direction → Direction
  | xPos => xNeg
  | xNeg => xPos
  | yPos => yNeg
  | yNeg => yPos
  | zPos => zNeg
  | zNeg => zPos

def index : Direction → Fin 6
  | xPos => 0
  | xNeg => 1
  | yPos => 2
  | yNeg => 3
  | zPos => 4
  | zNeg => 5

def spec : Direction → String
  | xPos => "x+"
  | xNeg => "x-"
  | yPos => "y+"
  | yNeg => "y-"
  | zPos => "z+"
  | zNeg => "z-"

def label : Direction → String
  | xPos => "right"
  | xNeg => "left"
  | yPos => "forwards"
  | yNeg => "back"
  | zPos => "up"
  | zNeg => "down"

def ofSpec? (s : String) : Option Direction :=
  all.find? fun d => d.spec == s

@[simp] theorem opposite_opposite (d : Direction) : d.opposite.opposite = d := by
  cases d <;> rfl

@[simp] theorem axis_opposite (d : Direction) : d.opposite.axis = d.axis := by
  cases d <;> rfl

theorem index_injective {d e : Direction} (h : d.index = e.index) : d = e := by
  cases d <;> cases e <;> simp_all [index]

theorem spec_injective {d e : Direction} (h : d.spec = e.spec) : d = e := by
  cases d <;> cases e <;> simp_all [spec]

@[simp] theorem ofSpec?_spec (d : Direction) : ofSpec? d.spec = some d := by
  cases d <;> simp [ofSpec?, all, spec]

end Direction

end LSystem
