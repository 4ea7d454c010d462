import LSystem.FileTree
import LSystem.Wavefront

namespace LSystem.Wavefront

inductive ExportError where
  | file (cause : FileFault)
  | object (cause : ObjectError)

/-- Writes a trace to a file and answers the content of the file. The directories above it are made
before there are any lines, so that they stay if there will be none. -/
def save (tree : FileTree) (here : Place) (p : Path) (t : Trace Float) (places : Value)
    (name : Option String) : Outcome FileTree ExportError String :=
  match tree.makePath here p.parent with
  | ⟨tree, .error e⟩ => .fail tree (.file e)
  | ⟨tree, .ok _⟩ =>
    match linesWith t places name with
    | .error e => .fail tree (.object e)
    | .ok lines =>
      let content := fileText lines
      match tree.write here p (.parsed (.text content)) with
      | .error e => .fail tree (.file e)
      | .ok tree => .ok tree content

end LSystem.Wavefront
