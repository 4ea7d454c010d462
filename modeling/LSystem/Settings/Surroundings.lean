import LSystem.FileTree

namespace LSystem

inductive HomeFault where
  | unknownUser
  | badName
  deriving DecidableEq, Repr

def HomeFault.message : HomeFault → String
  | unknownUser => "Could not determine home directory."
  | badName => FileFault.badCharacter.message

structure Surroundings where
  here : Path
  home : String
  users : Dictionary String String
  environment : Dictionary String String
  tree : FileTree

namespace Surroundings

def create (here : Path) (home : String) (users environment : Dictionary String String) :
    Surroundings :=
  let tree := ((FileTree.empty.makePath [] here).state.makePath here.parts (.ofText home)).state
  ⟨here, home, users, environment, tree⟩

def find (w : Surroundings) (p : Path) : Except FileFault FileEntry :=
  w.tree.find w.here.parts p

def isFile (w : Surroundings) (p : Path) : Except FileFault Bool :=
  match w.find p with
  | .ok (.file _) => .ok true
  | .error .tooLong => .error .tooLong
  | _ => .ok false

def store (w : Surroundings) (p : Path) (d : Document) : Outcome Surroundings FileFault Unit :=
  (w.tree.store w.here.parts p d).lift fun t => { w with tree := t }

def dropSlashes (s : String) : String :=
  String.ofList (s.toList.reverse.dropWhile (· = '/')).reverse

def underHome (home rest : String) : String :=
  let s := dropSlashes home ++ rest
  if s = "" then "/" else s

def homeOf (w : Surroundings) (name : String) : Except HomeFault (Option String) :=
  if name = "" then .ok (some w.home)
  else if name.toList.contains '\x00' then .error .badName
  else .ok (w.users.get? name)

/-- A text with a home directory in place of a tilde in front and the name behind it, up to the
first slash. A tilde before the name of nobody stays. -/
def expandTilde (w : Surroundings) (s : String) : Except HomeFault String :=
  match s.toList with
  | '~' :: rest => do
    match ← w.homeOf (String.ofList (rest.takeWhile (· ≠ '/'))) with
    | some home => return underHome home (String.ofList (rest.dropWhile (· ≠ '/')))
    | none => return s
  | _ => .ok s

def expandHome (w : Surroundings) (p : Path) : Except HomeFault Path :=
  match p.root, p.parts with
  | "", first :: rest => do
    if first.toList.head? ≠ some '~' then return p
    let expanded ← w.expandTilde first
    if expanded.toList.head? = some '~' then throw .unknownUser
    let home := Path.ofText expanded
    return ⟨home.root, home.parts ++ rest⟩
  | _, _ => .ok p

def inVariable (c : Char) : Bool :=
  c.isAlphanum || c = '_'

/-- A text with the values of the variables named after dollar signs: a name of ASCII letters,
digits and low lines, or anything between braces. A variable that is not set stays as it is written.
The first argument bounds the length of the text. -/
def expandVariables (w : Surroundings) : Nat → List Char → List Char
  | 0, cs => cs
  | _ + 1, [] => []
  | fuel + 1, '$' :: rest =>
    let name := rest.takeWhile inVariable
    if !name.isEmpty then
      let after := w.expandVariables fuel (rest.dropWhile inVariable)
      match w.environment.get? (String.ofList name) with
      | some v => v.toList ++ after
      | none => '$' :: name ++ after
    else match rest with
      | '\x7b' :: inner =>
        let name := inner.takeWhile (· ≠ '\x7d')
        match inner.dropWhile (· ≠ '\x7d') with
        | [] => '$' :: w.expandVariables fuel rest
        | _ :: left =>
          let after := w.expandVariables fuel left
          match w.environment.get? (String.ofList name) with
          | some v => v.toList ++ after
          | none => '$' :: '\x7b' :: name ++ '\x7d' :: after
      | _ => '$' :: w.expandVariables fuel rest
  | fuel + 1, c :: rest => c :: w.expandVariables fuel rest

def expand (w : Surroundings) (s : String) : Except HomeFault Path := do
  let cs := (← w.expandTilde s).toList
  return .ofText (String.ofList (w.expandVariables (cs.length + 1) cs))

end Surroundings

end LSystem
