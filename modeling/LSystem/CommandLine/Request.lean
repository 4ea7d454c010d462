import LSystem.CommandLine.Arguments
import LSystem.Decimal.Numeral
import LSystem.Plant.Options

namespace LSystem.CommandLine

structure PlantRequest where
  preset : Option Value
  start : Option Value
  rules : List Value
  iterations : Option Value
  angle : Option Value
  length : Option Value

inductive Command where
  | expand (plant : PlantRequest) (stats : Bool)
  | save (plant : PlantRequest) (out places : Option Value)
  | tokens
  | presets

structure Request where
  settings : Option Value
  command : Command

def readText (s : String) : Option Value :=
  some (.text s)

def readPreset (s : String) : Option Value :=
  if Options.presetNames.contains s then some (.text s) else none

def readInteger (s : String) : Option Value :=
  (Decimal.readInteger? s).map .int

def readReal (s : String) : Option Value :=
  (Decimal.readReal? s).map .real

def helpOption : OptionSpec := ⟨"--help", some 'h', .help⟩

def mainOptions : List OptionSpec :=
  [helpOption, ⟨"--config", none, .value readText⟩, ⟨"--verbose", some 'v', .flag⟩]

def plantOptions : List OptionSpec :=
  [helpOption,
    ⟨"--preset", none, .value readPreset⟩,
    ⟨"--axiom", none, .value readText⟩,
    ⟨"--rule", none, .value readText⟩,
    ⟨"--iterations", none, .value readInteger⟩,
    ⟨"--angle", none, .value readReal⟩,
    ⟨"--length", none, .value readReal⟩]

def expandOptions : List OptionSpec :=
  plantOptions ++ [⟨"--stats", none, .flag⟩]

def exportOptions : List OptionSpec :=
  plantOptions ++ [⟨"--out", none, .value readText⟩, ⟨"--decimals", none, .value readInteger⟩]

def PlantRequest.ofGiven (g : Given) : PlantRequest where
  preset := g.last? "--preset"
  start := g.last? "--axiom"
  rules := g.values "--rule"
  iterations := g.last? "--iterations"
  angle := g.last? "--angle"
  length := g.last? "--length"

def givenTo (options : List OptionSpec) (args : List String) : Except Stop Given := do
  Given.empty.takeAll options (← classifyAll options args)

def Command.ofWords (name : String) (args : List String) : Except Stop (Command × Bool) :=
  match name with
  | "expand" => do
    let g ← givenTo expandOptions args
    return (.expand (.ofGiven g) (g.has "--stats"), g.stray)
  | "export" => do
    let g ← givenTo exportOptions args
    return (.save (.ofGiven g) (g.last? "--out") (g.last? "--decimals"), g.stray)
  | "tokens" => do
    let g ← givenTo [helpOption] args
    return (.tokens, g.stray)
  | "presets" => do
    let g ← givenTo [helpOption] args
    return (.presets, g.stray)
  | _ => .error .usage

def Request.ofArguments (args : List String) : Except Stop Request := do
  let (given, left) ← Given.empty.takeOptions mainOptions (← classifyAll mainOptions args)
  match args.drop (args.length - left) with
  | [] => throw .usage
  | name :: rest =>
    let (command, stray) ← Command.ofWords name rest
    if given.stray || stray then throw .usage
    return ⟨given.last? "--config", command⟩

end LSystem.CommandLine
