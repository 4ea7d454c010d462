import LSystem.Expansion.Rewrite

namespace LSystem

structure ProductionTable where
  flat : Array Int
  starts : Array Nat
  lengths : Array Nat
  replaced : Array Bool

namespace ProductionTable

def empty : ProductionTable := ⟨#[], #[], #[], #[]⟩

def add (t : ProductionTable) (ids : List Int) (own : Bool) : ProductionTable where
  starts := t.starts.push t.flat.size
  lengths := t.lengths.push ids.length
  flat := t.flat ++ ids
  replaced := t.replaced.push own

def below (g : Grammar) (n : Nat) : ProductionTable :=
  (List.range n).foldl (fun t (i : Nat) => t.add (g.production i) (g.hasProduction i)) empty

def ofGrammar (g : Grammar) : ProductionTable :=
  below g g.idCount

def start (t : ProductionTable) (id : Int) : Nat :=
  t.starts.getD id.toNat 0

def length (t : ProductionTable) (id : Int) : Nat :=
  t.lengths.getD id.toNat 0

def isReplaced (t : ProductionTable) (id : Int) : Bool :=
  t.replaced.getD id.toNat false

def nextLength (t : ProductionTable) (ids : Array Int) : Nat :=
  ids.foldl (fun n id => n + t.length id) 0

def pushPlaces (shift : Int) : Nat → Array Int → Array Int
  | 0, places => places
  | n + 1, places => pushPlaces shift n (places.push (shift + places.size))

/-- The place in the flat array that each position of the next generation is read from. -/
def places (t : ProductionTable) (ids : Array Int) : Array Int :=
  ids.foldl (fun places id => pushPlaces (t.start id - places.size) (t.length id) places) #[]

def gather (t : ProductionTable) (ids : Array Int) : Array Int :=
  (t.places ids).map fun i => t.flat.getD i.toNat 0

end ProductionTable

end LSystem
