import LSystem.Direction

namespace LSystem

inductive Action where
  | nothing
  | forward
  | rotate (d : Direction)
  | push
  | pop
  deriving DecidableEq, Repr

namespace Action

def kind : Action → String
  | nothing => "nothing"
  | forward => "forward"
  | rotate _ => "rotate"
  | push => "push"
  | pop => "pop"

def direction? : Action → Option Direction
  | rotate d => some d
  | _ => none

def spec : Action → String
  | rotate d => "rotate:" ++ d.spec
  | a => a.kind

def label : Action → String
  | nothing => "Do nothing"
  | forward => "Move forwards"
  | rotate d => "Rotate " ++ d.label
  | push => "Push transform"
  | pop => "Pop transform"

def all : List Action :=
  [nothing, forward] ++ Direction.all.map rotate ++ [push, pop]

theorem mem_all (a : Action) : a ∈ all := by
  cases a <;> simp [all, Direction.mem_all]

def ofKind? : String → Option Action
  | "nothing" => some nothing
  | "forward" => some forward
  | "push" => some push
  | "pop" => some pop
  | _ => none

end Action

end LSystem
