import LSystem.Grammar.Draft
import LSystem.Plant.Options
import LSystem.Turtle.Interpret

namespace LSystem

structure Geometry where
  grammar : Grammar
  sequence : Array Int
  trace : Trace Float

namespace Geometry

def vertexCount (g : Geometry) : Nat :=
  g.trace.vertexCount

def text (g : Geometry) : String :=
  g.grammar.decode g.sequence.toList

end Geometry

inductive RebuildError where
  | edit (cause : EditError)
  | expansion (cause : ExpansionError)
  | pen (cause : PenError)

def RebuildError.message : RebuildError → String
  | .edit cause => cause.message
  | .expansion cause => cause.message
  | .pen cause => cause.message

structure Plant where
  options : Options
  draft : Draft
  limit : Value
  geometry : Option Geometry
  actions : Dictionary Char Action

namespace Plant

def create (options : Options) (declarations : List Declaration) (limit : Value) :
    Except EditError Plant := do
  let draft ← (Draft.empty.setTokens declarations).result
  return ⟨options, draft, limit, none, draft.tokens.actionMap⟩

def vertexCount (p : Plant) : Nat :=
  (p.geometry.map Geometry.vertexCount).getD 0

def edit (p : Plant) (c : Draft.Command) : Outcome Plant EditError Draft.Reply :=
  (p.draft.perform c).lift fun d => { p with draft := d }

def setOptions (p : Plant) (o : Options) : Plant :=
  { p with options := o }

def updateOptions (p : Plant) (changes : Dictionary String Value) :
    Outcome Plant OptionsError Options :=
  match p.options.update changes with
  | .ok o => .ok (p.setOptions o) o
  | .error e => .fail p e

def compile (p : Plant) : Outcome Plant EditError Grammar :=
  match (p.draft.setStart p.options.start).setRules p.options.rules with
  | ⟨d, .ok _⟩ => .ok { p with draft := d } d.build
  | ⟨d, .error e⟩ => .fail { p with draft := d } e

def render (tokens : TokenTable) (options : Options) (limit : Value) (g : Grammar) :
    Except RebuildError Geometry := do
  let ids ← (g.expandUnder options.iterations limit).mapError .expansion
  let pen ← options.pen.mapError .pen
  return ⟨g, ids, Turtle.interpret tokens.actionOf pen ids⟩

def rebuild (p : Plant) : Outcome Plant RebuildError Geometry :=
  match p.compile with
  | ⟨p, .error e⟩ => .fail p (.edit e)
  | ⟨p, .ok g⟩ =>
    match render p.draft.tokens p.options p.limit g with
    | .error e => .fail p e
    | .ok geometry =>
      .ok { p with geometry := some geometry, actions := p.draft.tokens.actionMap } geometry

end Plant

end LSystem
