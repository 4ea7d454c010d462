/-!
Paths in their normal form: no empty part and no `.`; a `..` stays. A path begins at the root if it
has one slash in front, or more than two; two slashes are a root of their own.
-/

namespace LSystem

structure Path where
  /-- No slash for a relative path, one or two for the roots. -/
  root : String
  parts : List String
  deriving DecidableEq, Repr

namespace Path

def rootOf (s : String) : String :=
  match (s.toList.takeWhile (· = '/')).length with
  | 0 => ""
  | 2 => "//"
  | _ => "/"

def cut (current : List Char) : List Char → List String
  | [] => [String.ofList current.reverse]
  | '/' :: rest => String.ofList current.reverse :: cut [] rest
  | c :: rest => cut (c :: current) rest

def ofText (s : String) : Path :=
  ⟨rootOf s, (cut [] s.toList).filter fun part => part ≠ "" ∧ part ≠ "."⟩

def text (p : Path) : String :=
  if p.root = "" ∧ p.parts = [] then "." else p.root ++ "/".intercalate p.parts

def isAbsolute (p : Path) : Bool :=
  p.root ≠ ""

def join (p q : Path) : Path :=
  if q.isAbsolute then q else ⟨p.root, p.parts ++ q.parts⟩

def parent (p : Path) : Path :=
  { p with parts := p.parts.dropLast }

end Path

end LSystem
