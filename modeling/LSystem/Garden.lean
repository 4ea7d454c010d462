import LSystem.Plant.Basic
import LSystem.Value.Key

/-!
Gardens: plants that are edited and drawn by events.

Events wait in a queue. A step takes all that wait; what they give rise to waits for the next step.
An edit that is refused changes nothing, a drawing that fails leaves the result before it, and both
are reported. Events for plants that do not exist are passed over.
-/

namespace LSystem

inductive Event where
  | spawn (options : Option Options)
  | rebuild (plant : Key)
  | addToken (plant : Key) (symbol : Value) (action : Offer Action)
  | removeToken (plant : Key) (symbol : Value)
  | changeToken (plant : Key) (former symbol : Value)
  | changeAction (plant : Key) (symbol : Value) (action : Offer Action)
  | updateOptions (plant : Key) (options : Options)

inductive Warning where
  | editRejected (plant : Key) (cause : EditError)
  | rebuildFailed (plant : Key) (cause : RebuildError)

structure Report where
  rebuilt : List Key
  warnings : List Warning

inductive GardenError where
  | spawn (cause : EditError)
  | limit (cause : Mismatch)
  | unknownPlant
  | mismatch (cause : Mismatch)

structure Garden where
  declarations : List Declaration
  options : Options
  limit : Value
  plants : Dictionary Nat Plant
  nextPlant : Nat
  queue : List Event

namespace Report

def empty : Report := ⟨[], []⟩

instance : Inhabited Report := ⟨empty⟩

def append (a b : Report) : Report :=
  ⟨a.rebuilt ++ b.rebuilt, a.warnings ++ b.warnings⟩

end Report

def Key.plantNumber? (k : Key) : Option Nat := do
  let n ← k.value.integer?
  if n < 0 then none else some n.toNat

/-- The cause of a failed drawing that ends the step: a limit that is no number, or beyond all
bounds. -/
def RebuildError.ending? : RebuildError → Option Mismatch
  | .expansion (.mismatch .wrongKind) => some .wrongKind
  | .expansion (.mismatch .outOfRange) => some .outOfRange
  | _ => none

def Draft.Reply.isChange : Draft.Reply → Bool
  | .changed found => found
  | _ => true

namespace Garden

def create (declarations : List Declaration) (options : Options) (limit : Value) : Garden :=
  ⟨declarations, options, limit, [], 0, []⟩

def plant? (g : Garden) (id : Key) : Option (Nat × Plant) := do
  let n ← id.plantNumber?
  let p ← g.plants.get? n
  return (n, p)

def plant (g : Garden) (id : Value) : Except GardenError Plant := do
  let n ← id.toInteger.mapError .mismatch
  match if n < 0 then none else g.plants.get? n.toNat with
  | some p => return p
  | none => throw .unknownPlant

def setPlant (g : Garden) (n : Nat) (p : Plant) : Garden :=
  { g with plants := g.plants.put n p }

def post (g : Garden) (e : Event) : Garden :=
  { g with queue := g.queue ++ [e] }

/-- Makes a plant and answers its number. The number is used up also if no plant can be made. -/
def addPlant (g : Garden) (options : Option Options) : Outcome Garden GardenError Nat :=
  let n := g.nextPlant
  let g := { g with nextPlant := n + 1 }
  match Plant.create (options.getD g.options) g.declarations g.limit with
  | .ok p => .ok (g.setPlant n p) n
  | .error e => .fail g (.spawn e)

def spawn (g : Garden) (options : Option Options) : Outcome Garden GardenError Nat :=
  match g.addPlant options with
  | ⟨g, .ok n⟩ => .ok (g.post (.rebuild (.ofNat n))) n
  | ⟨g, .error e⟩ => .fail g e

structure Round where
  garden : Garden
  derived : List Event
  report : Report

namespace Round

def request (r : Round) (plant : Key) : Round :=
  { r with derived := r.derived ++ [.rebuild plant] }

def warn (r : Round) (w : Warning) : Round :=
  { r with report.warnings := r.report.warnings ++ [w] }

def rebuild (r : Round) (id : Key) : Outcome Round GardenError Unit :=
  match r.garden.plant? id with
  | none => .ok r ()
  | some (n, p) =>
    match p.rebuild with
    | ⟨p, .ok _⟩ =>
      .ok { r with
        garden := r.garden.setPlant n p
        report.rebuilt := r.report.rebuilt ++ [id] } ()
    | ⟨p, .error e⟩ =>
      let r := { r with garden := r.garden.setPlant n p }
      match e.ending? with
      | some cause => .fail r (.limit cause)
      | none => .ok (r.warn (.rebuildFailed id e)) ()

def edit (r : Round) (id : Key) (c : Draft.Command) : Round :=
  match r.garden.plant? id with
  | none => r
  | some (n, p) =>
    match p.edit c with
    | ⟨p, .ok reply⟩ =>
      let r := { r with garden := r.garden.setPlant n p }
      if reply.isChange then r.request id else r
    | ⟨p, .error e⟩ => { r with garden := r.garden.setPlant n p }.warn (.editRejected id e)

def updateOptions (r : Round) (id : Key) (o : Options) : Round :=
  match r.garden.plant? id with
  | none => r
  | some (n, p) =>
    if o.same p.options then r
    else { r with garden := r.garden.setPlant n (p.setOptions o) }.request id

def handle (r : Round) : Event → Outcome Round GardenError Unit
  | .spawn options =>
    match r.garden.addPlant options with
    | ⟨g, .ok n⟩ => .ok ({ r with garden := g }.request (.ofNat n)) ()
    | ⟨g, .error e⟩ => .fail { r with garden := g } e
  | .rebuild id => r.rebuild id
  | .addToken id symbol action => .ok (r.edit id (.addToken symbol action)) ()
  | .removeToken id symbol => .ok (r.edit id (.removeToken symbol)) ()
  | .changeToken id former symbol => .ok (r.edit id (.changeToken former symbol)) ()
  | .changeAction id symbol action => .ok (r.edit id (.changeAction symbol action)) ()
  | .updateOptions id o => .ok (r.updateOptions id o) ()

def handleAll (r : Round) : List Event → Outcome Round GardenError Unit
  | [] => .ok r ()
  | e :: rest =>
    match r.handle e with
    | ⟨r, .ok _⟩ => r.handleAll rest
    | ⟨r, .error e⟩ => .fail r e

end Round

/-- Takes all events that wait. A step that ends early has taken them too, and what they gave rise
to is lost. -/
def step (g : Garden) : Outcome Garden GardenError Report :=
  match Round.handleAll ⟨{ g with queue := [] }, [], .empty⟩ g.queue with
  | ⟨r, .ok _⟩ => .ok { r.garden with queue := r.garden.queue ++ r.derived } r.report
  | ⟨r, .error e⟩ => .fail r.garden e

def runFor (g : Garden) (report : Report) : Nat → Outcome Garden GardenError Report
  | 0 => .ok g report
  | n + 1 =>
    if g.queue.isEmpty then .ok g report
    else
      match g.step with
      | ⟨g, .ok more⟩ => g.runFor (report.append more) n
      | ⟨g, .error e⟩ => .fail g e

def runUntilIdle (g : Garden) (steps : Value) : Outcome Garden GardenError Report :=
  match steps.toInteger with
  | .error e => .fail g (.mismatch e)
  | .ok n => g.runFor .empty n.toNat

end Garden

end LSystem
