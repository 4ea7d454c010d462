import LSystem.Dictionary
import LSystem.Expansion.Growth
import LSystem.Token.Table
import LSystem.Turtle.Pen

namespace LSystem

structure Options where
  start : String
  rules : List String
  iterations : Nat
  /-- In degrees. -/
  rotationAngle : Float
  segmentLength : Float

inductive OptionsError where
  | rulesAsText
  | noMembers
  | count (cause : CountError)
  | mismatch (cause : Mismatch)
  | unknownOption (name : String)
  | unknownPreset (given : Value)

namespace Options

def bush : Options := ⟨"X", ["X=[+F][^F][-F][vF]FX", "F=FX"], 6, 30, 0.25⟩

def plant : Options := ⟨"X", ["X=F-[[X]+X]+F[+FX]-X", "F=FF"], 5, 25, 0.05⟩

def circuit : Options := ⟨"X", ["X=F[+X]F[-X]FX", "F=FF"], 5, 90, 0.05⟩

instance : Inhabited Options := ⟨bush⟩

def presets : Dictionary String Options :=
  [("bush", bush), ("plant", plant), ("circuit", circuit)]

def presetNames : List String :=
  presets.map Prod.fst

end Options

def OptionsError.message : OptionsError → String
  | .rulesAsText => "rules は規則テキストの列である必要があります（str 単体は不可）"
  | .noMembers => "a list of rules is required"
  | .count cause => cause.message
  | .mismatch cause => cause.message
  | .unknownOption name => "unexpected option " ++ Text.quoted name
  | .unknownPreset given =>
    "未知のプリセットです: " ++ given.literal ++ "（choices=" ++ ", ".intercalate Options.presetNames
      ++ "）"

namespace Options

def preset (name : Value) : Except OptionsError Options :=
  match presets.get? name.toText with
  | some o => .ok o
  | none => .error (.unknownPreset name)

def names : List String :=
  ["axiom", "rules", "iterations", "rotation_angle", "segment_length"]

def rulesOf (v : Value) : Except OptionsError (List String) :=
  match v.members? with
  | some members => .ok (members.map Value.toText)
  | none => .error .noMembers

def realOf (v : Value) : Except OptionsError Float :=
  v.toReal.mapError .mismatch

def orFormer {α : Type} (former : α) (f : Value → Except OptionsError α) :
    Option Value → Except OptionsError α
  | some v => f v
  | none => .ok former

/-- The options with some of them given anew. The form of the rules and the count of iterations are
looked at first. -/
def update (o : Options) (changes : Dictionary String Value) : Except OptionsError Options := do
  if let some (name, _) := changes.find? fun e => !names.contains e.1 then
    throw (.unknownOption name)
  let rules := changes.get? "rules"
  if rules matches some (.text _) then throw .rulesAsText
  let iterations ← orFormer o.iterations (fun v => v.toCount.mapError .count)
    (changes.get? "iterations")
  let rules ← orFormer o.rules rulesOf rules
  let angle ← orFormer o.rotationAngle realOf (changes.get? "rotation_angle")
  let length ← orFormer o.segmentLength realOf (changes.get? "segment_length")
  let start := ((changes.get? "axiom").map Value.toText).getD o.start
  return ⟨start, rules, iterations, angle, length⟩

def ofValues (changes : Dictionary String Value) : Except OptionsError Options :=
  bush.update changes

/-- Whether two plants have the same options. Numbers are compared as numbers: the undefined one
differs from itself. -/
def same (a b : Options) : Bool :=
  a.start == b.start && a.rules == b.rules && a.iterations == b.iterations
    && a.rotationAngle == b.rotationAngle && a.segmentLength == b.segmentLength

def pen (o : Options) : Except PenError Pen :=
  Pen.ofValues (.real o.segmentLength) (.real o.rotationAngle)

end Options

def standardTokens : List (Char × Action) :=
  [('X', .nothing), ('F', .forward),
   ('+', .rotate .xPos), ('-', .rotate .xNeg),
   ('>', .rotate .yPos), ('<', .rotate .yNeg),
   ('^', .rotate .zPos), ('v', .rotate .zNeg),
   ('[', .push), (']', .pop)]

def declare (tokens : List (Char × Action)) : List Declaration :=
  tokens.map fun e => .of e.1 e.2

end LSystem
