import LSystem.Dictionary
import LSystem.Outcome
import LSystem.Path
import LSystem.Value.Basic

/-!
File trees: directories, and files with what is in them.

Who follows a path goes from directory to directory. A name that leads to no directory ends the way,
also if `..` comes right after it.
-/

namespace LSystem

/-- The names on the way from the root to something, none of them `..`. -/
abbrev Place := List String

inductive Document where
  | parsed (v : Value)
  | malformed

inductive FileEntry where
  | directory
  | file (d : Document)

inductive FileFault where
  | missing
  | notDirectory
  | isDirectory
  | occupied
  | tooLong
  | badCharacter
  deriving DecidableEq, Repr

def FileFault.message : FileFault → String
  | missing => "no such file or directory"
  | notDirectory => "not a directory"
  | isDirectory => "is a directory"
  | occupied => "file exists"
  | tooLong => "file name too long"
  | badCharacter => "embedded null byte"

structure FileTree where
  entries : Dictionary Place FileEntry

namespace FileTree

def empty : FileTree := ⟨[]⟩

instance : Inhabited FileTree := ⟨empty⟩

def look? (t : FileTree) (place : Place) : Option FileEntry :=
  if place = [] then some .directory else t.entries.get? place

def put (t : FileTree) (place : Place) (e : FileEntry) : FileTree :=
  ⟨t.entries.put place e⟩

def step (place : Place) (name : String) : Place :=
  if name = ".." then place.dropLast else place ++ [name]

def maxName : Nat := 255

def maxPath : Nat := 4095

def directory (t : FileTree) (here : Place) : List String → Except FileFault Place
  | [] => .ok here
  | name :: rest =>
    if maxName < name.utf8ByteSize then .error .tooLong
    else
      let place := step here name
      match t.look? place with
      | some .directory => t.directory place rest
      | some (.file _) => .error .notDirectory
      | none => .error .missing

/-- Where names lead from a directory. There may be nothing, but what is above it is a directory. -/
def locate (t : FileTree) (here : Place) (names : List String) : Except FileFault Place :=
  match names.getLast? with
  | none => .ok here
  | some name => do
    let above ← t.directory here names.dropLast
    if maxName < name.utf8ByteSize then throw .tooLong
    return step above name

def addDirectory (t : FileTree) (place : Place) : Outcome FileTree FileFault Unit :=
  match t.look? place with
  | some .directory => .ok t ()
  | some (.file _) => .fail t .occupied
  | none => .ok (t.put place .directory) ()

/-- Makes the directory that names lead to, the innermost first, and those above it. Before a fault
some of them may be made. -/
def makeDirectory (t : FileTree) (here : Place) : List String → Outcome FileTree FileFault Unit
  | [] => .ok t ()
  | name :: above =>
    let made := match t.directory here above.reverse with
      | .error .missing => t.makeDirectory here above
      | _ => .ok t ()
    match made with
    | ⟨t, .error e⟩ => .fail t e
    | ⟨t, .ok _⟩ =>
      match t.locate here (name :: above).reverse with
      | .ok place => t.addDirectory place
      | .error e => .fail t e

def namesOf (p : Path) : Except FileFault (List String) :=
  if p.parts.any fun name => name.toList.contains '\x00' then .error .badCharacter
  else if maxPath < p.text.utf8ByteSize then .error .tooLong
  else .ok p.parts

def origin (here : Place) (p : Path) : Place :=
  if p.isAbsolute then [] else here

def place (t : FileTree) (here : Place) (p : Path) : Except FileFault Place := do
  t.locate (origin here p) (← namesOf p)

def find (t : FileTree) (here : Place) (p : Path) : Except FileFault FileEntry := do
  match t.look? (← t.place here p) with
  | some e => return e
  | none => throw .missing

def makePath (t : FileTree) (here : Place) (p : Path) : Outcome FileTree FileFault Unit :=
  match namesOf p with
  | .ok names => t.makeDirectory (origin here p) names.reverse
  | .error e => .fail t e

def write (t : FileTree) (here : Place) (p : Path) (d : Document) : Except FileFault FileTree := do
  let place ← t.place here p
  match t.look? place with
  | some .directory => throw .isDirectory
  | _ => return t.put place (.file d)

def store (t : FileTree) (here : Place) (p : Path) (d : Document) :
    Outcome FileTree FileFault Unit :=
  match t.makePath here p.parent with
  | ⟨t, .error e⟩ => .fail t e
  | ⟨t, .ok _⟩ =>
    match t.write here p d with
    | .ok t => .ok t ()
    | .error e => .fail t e

def remove (t : FileTree) (here : Place) (p : Path) : Except FileFault FileTree := do
  let place ← t.place here p
  match t.look? place with
  | none => throw .missing
  | some .directory => throw .isDirectory
  | some (.file _) => return ⟨t.entries.erase place⟩

theorem look?_nil (t : FileTree) : t.look? [] = some .directory := rfl

theorem look?_put_self (t : FileTree) {place : Place} (h : place ≠ []) (e : FileEntry) :
    (t.put place e).look? place = some e := by
  simp [look?, put, h]

theorem look?_put_of_ne (t : FileTree) {place other : Place} (h : other ≠ place) (e : FileEntry) :
    (t.put place e).look? other = t.look? other := by
  by_cases ho : other = []
  · simp [look?, ho]
  · simp [look?, put, ho, Dictionary.get?_put_of_ne t.entries e h]

end FileTree

end LSystem
