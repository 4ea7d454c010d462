import LSystem.CommandLine.Request
import LSystem.Plant.Basic
import LSystem.Settings.Session
import LSystem.Wavefront.Export

namespace LSystem.CommandLine

structure Desk where
  surroundings : Surroundings
  session : Session

structure Output where
  path : Path
  content : String

inductive CommandError where
  | settings (cause : SettingsError)
  | options (cause : OptionsError)
  | tokens (cause : EditError)
  | rebuild (cause : RebuildError)
  | mismatch (cause : Mismatch)
  | saving (cause : Wavefront.ExportError)

def CommandError.message : CommandError → String
  | .settings cause => cause.message
  | .options cause => cause.message
  | .tokens cause => cause.message
  | .rebuild cause => cause.message
  | .mismatch cause => cause.message
  | .saving (.file cause) => cause.message
  | .saving (.object cause) => cause.message

/-- Whether the cause is a value that does not serve, which is reported to the user. Any other cause
breaks the run off. -/
def CommandError.isValueFault : CommandError → Bool
  | .settings cause => cause.isValueFault
  | .options (.count (.mismatch cause)) | .options (.mismatch cause) | .mismatch cause =>
    cause.isValueFault
  | .saving (.file cause) => cause == .badCharacter
  | .options _ | .tokens _ | .rebuild _ | .saving (.object _) => true

inductive Ending where
  | stopped (cause : Stop)
  | done (shown : String) (files : List Output)
  | refused (message : String)
  | broken (cause : CommandError)

def CommandError.ending (e : CommandError) : Ending :=
  if e.isValueFault then .refused e.message else .broken e

def PlantRequest.changes (r : PlantRequest) : Dictionary String Value :=
  let entry (name : String) (v : Option Value) : List (String × Value) :=
    (v.map fun v => (name, v)).toList
  entry "axiom" r.start
    ++ (if r.rules.isEmpty then [] else [("rules", .list r.rules)])
    ++ entry "iterations" r.iterations
    ++ entry "rotation_angle" r.angle
    ++ entry "segment_length" r.length

def PlantRequest.presetName (r : PlantRequest) (s : Settings) : String :=
  match r.preset with
  | some v => if v.isVacant then s.preset else v.toText
  | none => s.preset

def PlantRequest.geometry (r : PlantRequest) (s : Settings) :
    Except CommandError (String × Geometry) := do
  let name := r.presetName s
  let options ← (Options.preset (.text name)).mapError .options
  let options ← (options.update r.changes).mapError .options
  let limit := (s.limit.map Value.int).getD .null
  let plant ← (Plant.create options (declare s.tokens) limit).mapError .tokens
  let geometry ← plant.rebuild.answer.mapError .rebuild
  return (name, geometry)

def statsText (g : Geometry) : String :=
  "symbols: " ++ toString g.sequence.size ++ "\nvertices: " ++ toString g.vertexCount
    ++ "\nruns: " ++ toString g.trace.runCount ++ "\n"

def tokenLine (token : Char × Action) : String :=
  token.1.toString ++ "\t" ++ token.2.spec ++ "\t" ++ token.2.label ++ "\n"

def presetLine (name : String) (o : Options) : String :=
  name ++ ": axiom=" ++ o.start ++ " rules=" ++ "; ".intercalate o.rules
    ++ " iterations=" ++ toString o.iterations
    ++ " angle=" ++ Decimal.summaryText o.rotationAngle
    ++ " length=" ++ Decimal.summaryText o.segmentLength ++ "\n"

def presetsText : String :=
  String.join (Options.presets.map fun e => presetLine e.1 e.2)

def pathOf : Value → Except CommandError Path
  | .text s => .ok (.ofText s)
  | _ => .error (.mismatch .wrongKind)

def destination (s : Settings) (name : String) (out places : Option Value) :
    Except CommandError (Path × Int) := do
  let path ← match out with
    | some v => pathOf v
    | none => pure (s.outputDirectory.join (.ofText (name ++ ".obj")))
  let places ← match places with
    | some v => v.toInteger.mapError .mismatch
    | none => pure s.places
  return (path, places)

def PlantRequest.save (r : PlantRequest) (out places : Option Value) (w : Surroundings)
    (s : Settings) : Outcome Surroundings CommandError (String × List Output) :=
  let prepared := do
    let (name, geometry) ← r.geometry s
    return (name, geometry, ← destination s name out places)
  match prepared with
  | .error e => .fail w e
  | .ok (name, geometry, path, places) =>
    match Wavefront.save w.tree w.here.parts path geometry.trace (.int places) (some name) with
    | ⟨tree, .error e⟩ => .fail { w with tree := tree } (.saving e)
    | ⟨tree, .ok content⟩ =>
      .ok { w with tree := tree }
        (path.text ++ " (vertices: " ++ toString geometry.vertexCount ++ ")\n", [⟨path, content⟩])

def Command.run (c : Command) (w : Surroundings) (s : Settings) :
    Outcome Surroundings CommandError (String × List Output) :=
  match c with
  | .expand plant stats =>
    match plant.geometry s with
    | .error e => .fail w e
    | .ok (_, geometry) =>
      .ok w (if stats then statsText geometry else geometry.text ++ "\n", [])
  | .save plant out places => plant.save out places w s
  | .tokens => .ok w (String.join (s.tokens.map tokenLine), [])
  | .presets => .ok w (presetsText, [])

def Command.runAt (c : Command) (d : Desk) : Desk × Ending :=
  match c with
  | .presets => (d, .done presetsText [])
  | c =>
    match d.session.settings d.surroundings with
    | ⟨session, .error e⟩ => ({ d with session := session }, (CommandError.settings e).ending)
    | ⟨session, .ok s⟩ =>
      match c.run d.surroundings s with
      | ⟨w, .ok (shown, files)⟩ => (⟨w, session⟩, .done shown files)
      | ⟨w, .error e⟩ => (⟨w, session⟩, e.ending)

def nameSettings (d : Desk) : Option Value → Outcome Session SettingsError Unit
  | none => .ok d.session ()
  | some v => d.session.name d.surroundings (some v.toText)

def Request.run (r : Request) (d : Desk) : Desk × Ending :=
  match nameSettings d r.settings with
  | ⟨session, .error e⟩ => ({ d with session := session }, .broken (.settings e))
  | ⟨session, .ok _⟩ => r.command.runAt { d with session := session }

def run (args : List String) (d : Desk) : Desk × Ending :=
  match Request.ofArguments args with
  | .error stop => (d, .stopped stop)
  | .ok request => request.run d

end LSystem.CommandLine
