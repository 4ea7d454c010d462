import LSystem.CommandLine.Run
import LSystem.Value.Notation

namespace LSystem

def readDocument (path : String) : IO (Option Document) := do
  try
    let text ← IO.FS.readFile path
    if text.all Text.isBlank then return some (.parsed .null)
    return some (((Value.Notation.read? text).map Document.parsed).getD .malformed)
  catch _ => return none

def readVariables : IO (Dictionary String String) := do
  try
    let text ← IO.FS.readFile "/proc/self/environ"
    return (text.splitOn "\x00").filterMap fun entry =>
      match CommandLine.cutAtEquals entry with
      | (name, some value) => some (name, value)
      | (_, none) => none
  catch _ => return []

def readUsers : IO (Dictionary String String) := do
  try
    let text ← IO.FS.readFile "/etc/passwd"
    return (text.splitOn "\n").filterMap fun line =>
      match line.splitOn ":" with
      | name :: _ :: _ :: _ :: _ :: home :: _ => some (name, home)
      | _ => none
  catch _ => return []

def readSurroundings (named : Option String) : IO Surroundings := do
  let here := Path.ofText (toString (← IO.currentDir))
  let home := (← IO.getEnv "HOME").getD "/"
  let mut w := Surroundings.create here home (← readUsers) (← readVariables)
  let named := named.bind fun text => (w.expandHome (.ofText text)).toOption
  for path in (Settings.candidates w).toOption.getD [] ++ named.toList do
    if let some d ← readDocument path.text then
      w := (w.store path d).state
  return w

def writeOutput (o : CommandLine.Output) : IO Unit := do
  IO.FS.createDirAll o.path.parent.text
  IO.FS.writeFile o.path.text o.content

end LSystem

open LSystem LSystem.CommandLine

def main (args : List String) : IO UInt32 := do
  let named := match Request.ofArguments args with
    | .ok request => request.settings.map Value.toText
    | .error _ => none
  let w ← readSurroundings named
  match (CommandLine.run args ⟨w, .fresh⟩).2 with
  | .stopped cause =>
    IO.eprintln "commands: expand, export, tokens, presets"
    return cause.status.toUInt32
  | .done shown files =>
    files.forM writeOutput
    IO.print shown
    return 0
  | .refused message =>
    IO.eprintln ("error: " ++ message)
    return 2
  | .broken cause =>
    IO.eprintln cause.message
    return 1
