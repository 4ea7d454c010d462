import LSystem.Text.Blank
import LSystem.Text.Quoted

namespace LSystem

inductive RuleFault where
  | noEquals
  | noLeftSide
  | longLeftSide
  deriving DecidableEq, Repr

def RuleFault.reason : RuleFault → String
  | .noEquals => "'=' がありません"
  | .noLeftSide => "左辺の記号がありません"
  | .longLeftSide => "左辺は 1 文字である必要があります"

structure Rule where
  symbol : Char
  replacement : List Char
  deriving DecidableEq, Repr

namespace Rule

def ofChars (cs : List Char) : Except RuleFault Rule :=
  match cs.dropWhile (· ≠ '=') with
  | [] => .error .noEquals
  | _ :: right =>
    match Text.trim (cs.takeWhile (· ≠ '=')) with
    | [] => .error .noLeftSide
    | [c] => .ok ⟨c, right.filter fun c => !Text.isBlank c⟩
    | _ => .error .longLeftSide

def parse (s : String) : Except RuleFault Rule :=
  ofChars s.toList

end Rule

end LSystem
