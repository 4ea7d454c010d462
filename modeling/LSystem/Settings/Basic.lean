import LSystem.Plant.Options
import LSystem.Settings.Surroundings
import LSystem.Text.Blank

/-!
Settings: where output goes, and the preset, the tokens and the limits of new plants.

Settings come in layers: the standard ones, those of a document that is found in the working or the
home directory, and those of a document that is named. A later layer replaces an earlier one key by
key, with all that is inside.
-/

namespace LSystem

structure Settings where
  source : Option Path
  outputDirectory : Path
  preset : String
  tokens : List (Char × Action)
  limit : Option Int
  places : Int

inductive SettingsError where
  | missing (p : Path)
  | pathTooLong (p : Path)
  | home (cause : HomeFault)
  | malformed (p : Path)
  | noMapping (p : Path)
  | badVersion (version : Option Int)
  | badSection (key : String) (given : Value)
  | notInteger (key : String) (given : Value)
  | noOutputDirectory
  | unknownPreset (name : String)
  | tokensNotList (given : Value)
  | tokenNotMapping (place : Nat) (given : Value)
  | badTokenSymbol (place : Nat) (given : Value)
  | badTokenAction (place : Nat) (given : Value)
  | badLimit (n : Int)
  | badPlaces (n : Int)

namespace SettingsError

def message : SettingsError → String
  | missing p => "config.yaml が見つかりません: " ++ p.text
  | pathTooLong p => FileFault.tooLong.message ++ ": " ++ p.text
  | home cause => cause.message
  | malformed p => "config.yaml を解析できません: source=" ++ p.text
  | noMapping p => "config.yaml のトップレベルは mapping である必要があります: source=" ++ p.text
  | badVersion v =>
    "未対応の config.yaml version です: got=" ++ ((v.map Value.int).getD .null).literal
  | badSection key given => key ++ " は mapping である必要があります: got=" ++ given.literal
  | notInteger key given => key ++ " は整数である必要があります: got=" ++ given.literal
  | noOutputDirectory => "paths.output_dir が未設定です"
  | unknownPreset name =>
    "plant.preset が未知のプリセットです: got=" ++ Text.quoted name ++ "（choices="
      ++ ", ".intercalate Options.presetNames ++ "）"
  | tokensNotList given => "tokens は配列である必要があります: got=" ++ given.literal
  | tokenNotMapping i given =>
    "tokens[" ++ toString i ++ "] は mapping である必要があります: got=" ++ given.literal
  | badTokenSymbol i given =>
    "tokens[" ++ toString i ++ "].symbol は 1 文字である必要があります: got=" ++ given.literal
  | badTokenAction i given =>
    "tokens[" ++ toString i ++ "].action を解釈できません: got=" ++ given.literal
  | badLimit n =>
    messageAbout n ("limits.max_sequence_length は正の値である必要があります: got=" ++ toString n)
  | badPlaces n =>
    messageAbout n ("export.obj.decimals は 0 以上である必要があります: got=" ++ toString n)

/-- The faults of a value that does not serve, which the command line reports to the user. -/
def isValueFault : SettingsError → Bool
  | unknownPreset _ | badLimit _ | badPlaces _ | home .badName => true
  | _ => false

end SettingsError

abbrev Layer := Dictionary String Value

namespace Settings

def standard : Layer :=
  [("version", .int 1),
   ("paths", .mapping [("output_dir", .text "data/output")]),
   ("plant", .mapping [("preset", .text "bush")]),
   ("tokens", .null),
   ("limits", .mapping [("max_sequence_length", .int 5000000)]),
   ("export", .mapping [("obj", .mapping [("decimals", .int 6)])])]

def under (layer : Layer) (key : String) : Value :=
  (layer.get? key).getD .null

def sectionOf (layer : Layer) (key : String) : Except SettingsError Layer :=
  match under layer key with
  | .null => .ok []
  | .mapping entries => .ok entries
  | v => .error (.badSection key v)

def integerOf (key : String) (v : Value) : Except SettingsError (Option Int) :=
  match v with
  | .null => .ok none
  | .int n => .ok (some n)
  | .text s => match Decimal.readInteger? s with
    | some n => .ok (some n)
    | none => .error (.notInteger key v)
  | _ => .error (.notInteger key v)

def textOf (v : Value) (otherwise : String) : String :=
  Text.strip (if v.isVacant then otherwise else v.toText)

def tokenOf (place : Nat) (v : Value) : Except SettingsError (Char × Action) := do
  let .mapping entries := v | throw (.tokenNotMapping place v)
  let symbol := under entries "symbol"
  let some c := symbol.symbol? | throw (.badTokenSymbol place symbol)
  let action := under entries "action"
  match Action.parse (.text action.toText) with
  | .ok a => return (c, a)
  | .error _ => throw (.badTokenAction place action)

def tokensFrom (place : Nat) : List Value → Except SettingsError (List (Char × Action))
  | [] => .ok []
  | v :: rest => do
    let token ← tokenOf place v
    let tokens ← tokensFrom (place + 1) rest
    return token :: tokens

def tokensOf : Value → Except SettingsError (List (Char × Action))
  | .null => .ok standardTokens
  | .list items => tokensFrom 0 items
  | v => .error (.tokensNotList v)

def ofLayer (w : Surroundings) (source : Option Path) (layer : Layer) :
    Except SettingsError Settings := do
  let version ← integerOf "version" (under layer "version")
  if version ≠ some 1 then throw (.badVersion version)
  let paths ← sectionOf layer "paths"
  let output := textOf (under paths "output_dir") ""
  if output = "" then throw .noOutputDirectory
  let directory ← (w.expand output).mapError .home
  let plant ← sectionOf layer "plant"
  let preset := textOf (under plant "preset") "bush"
  if !Options.presetNames.contains preset then throw (.unknownPreset preset)
  let tokens ← tokensOf (under layer "tokens")
  let limits ← sectionOf layer "limits"
  let limit ← integerOf "limits.max_sequence_length" (under limits "max_sequence_length")
  if let some n := limit then
    if n ≤ 0 then throw (.badLimit n)
  let obj ← sectionOf (← sectionOf layer "export") "obj"
  let places ← integerOf "export.obj.decimals" (under obj "decimals")
  let places := places.getD 6
  if places < 0 then throw (.badPlaces places)
  return ⟨source, directory, preset, tokens, limit, places⟩

def candidates (w : Surroundings) : Except SettingsError (List Path) := do
  let home ← (w.expandHome (.ofText "~")).mapError .home
  return [w.here.join (.ofText ".arbor/config.yaml"),
    home.join (.ofText ".config/arbor/config.yaml")]

def firstFile (w : Surroundings) : List Path → Except SettingsError (Option Path)
  | [] => .ok none
  | p :: rest =>
    match w.isFile p with
    | .ok true => .ok (some p)
    | .ok false => firstFile w rest
    | .error _ => .error (.pathTooLong p)

def discover (w : Surroundings) : Except SettingsError (Option Path) := do
  firstFile w (← candidates w)

def readLayer (w : Surroundings) (p : Path) : Except SettingsError Layer :=
  match w.find p with
  | .ok (.file (.parsed .null)) => .ok []
  | .ok (.file (.parsed (.mapping entries))) => .ok entries
  | .ok (.file (.parsed _)) => .error (.noMapping p)
  | _ => .error (.malformed p)

def optionalLayer (w : Surroundings) : Option Path → Except SettingsError Layer
  | none => .ok []
  | some p => readLayer w p

def layered (w : Surroundings) (named : Option Path) : Except SettingsError Settings := do
  let found ← discover w
  let below ← optionalLayer w found
  let above ← optionalLayer w named
  ofLayer w (named.or found) ((standard.override below).override above)

def load (w : Surroundings) (named : Option Path) : Except SettingsError Settings := do
  if let some p := named then
    match w.isFile p with
    | .ok true => pure ()
    | .ok false => throw (.missing p)
    | .error _ => throw (.pathTooLong p)
  layered w named

end Settings

end LSystem
