import LSystem.Action.Basic
import LSystem.Text.Blank
import LSystem.Text.Lowercase
import LSystem.Value.Basic

namespace LSystem

inductive ActionError where
  | unknownKind (kind : Value)
  | noDirection
  | needlessDirection (kind : String)
  | directionNotWritten (given : Value)
  | unknownDirection (given : Value)
  | directionWritten (kind : String) (given : Value)

def ActionError.message : ActionError → String
  | .unknownKind kind => "未知の action kind です: " ++ kind.literal
  | .noDirection => "rotate の action には Direction が必要です"
  | .needlessDirection kind => kind ++ " の action に direction は指定できません"
  | .directionNotWritten given => "rotate には方向が必要です（例: rotate:x+）: " ++ given.literal
  | .unknownDirection given => "未知の回転方向です: " ++ given.literal
  | .directionWritten kind given => kind ++ " の action に方向は指定できません: " ++ given.literal

namespace Action

def ofParts (kind : Value) (direction : Option (Offer Direction)) : Except ActionError Action :=
  match kind with
  | .text "rotate" => match direction with
    | some (.proper d) => .ok (rotate d)
    | _ => .error .noDirection
  | .text name => match ofKind? name with
    | none => .error (.unknownKind kind)
    | some a => if direction.isSome then .error (.needlessDirection name) else .ok a
  | _ => .error (.unknownKind kind)

def ofWritten (given : Value) (cs : List Char) : Except ActionError Action :=
  let kind := String.ofList (cs.takeWhile (· ≠ ':'))
  match cs.dropWhile (· ≠ ':') with
  | [] =>
    if kind = "rotate" then .error (.directionNotWritten given)
    else match ofKind? kind with
      | some a => .ok a
      | none => .error (.unknownKind (.text kind))
  | _ :: rest =>
    if kind = "rotate" then
      match Direction.ofSpec? (String.ofList (Text.trim rest)) with
      | some d => .ok (rotate d)
      | none => .error (.unknownDirection given)
    else .error (.directionWritten kind given)

def parse (given : Value) : Except ActionError Action :=
  ofWritten given (Text.lower (Text.trim given.toText.toList))

end Action

end LSystem
