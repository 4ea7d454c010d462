import LSystem.Decimal.Fixed
import LSystem.Trace.Basic
import LSystem.Value.Number

namespace LSystem.Wavefront

inductive ObjectError where
  | mismatch (cause : Mismatch)
  | negativePlaces (given : Value)
  | tooManyPlaces (places : Nat)

def maxPlaces : Nat := 2147483647

def ObjectError.message : ObjectError → String
  | .mismatch cause => cause.message
  | .negativePlaces given => "decimals は 0 以上である必要があります: got=" ++ given.toText
  | .tooManyPlaces places =>
    messageAbout places (if places < Value.halfWord then "precision too big"
      else "Too many decimal digits in format string")

def header {α : Type} (t : Trace α) (name : Option String) : List String :=
  ["# arbor turtle trace",
    "# points=" ++ toString t.pointCount ++ " runs=" ++ toString t.runCount]
    ++ (name.map fun n => "o " ++ n).toList

def vertexLine (places : Nat) (p : Point Float) : String :=
  let number := Decimal.fixed places
  "v " ++ number p.x ++ " " ++ number p.y ++ " " ++ number p.z

def numbers (a b : Int) : List Int :=
  (List.range (b - a).toNat).map fun (i : Nat) => a + i + 1

def runLine? (a b : Int) : Option String :=
  if b - a < 2 then none
  else some ("l " ++ " ".intercalate ((numbers a b).map toString))

def lines (t : Trace Float) (places : Nat) (name : Option String) : List String :=
  header t name ++ t.coords.toList.map (vertexLine places)
    ++ t.bounds.filterMap fun e => runLine? e.1 e.2

def shownName (name : Option String) : Option String :=
  name.filter fun n => !n.isEmpty

def coordinates (t : Trace Float) : List Float :=
  t.coords.toList.flatMap fun p => [p.x, p.y, p.z]

def fault? (t : Trace Float) (places : Nat) : Option ObjectError :=
  if maxPlaces < places && 0 < t.pointCount then some (.tooManyPlaces places)
  else ((coordinates t).findSome? (Decimal.unread? places)).map fun s => .mismatch (.notReal s)

def linesWith (t : Trace Float) (places : Value) (name : Option String) :
    Except ObjectError (List String) := do
  let n ← places.toInteger.mapError .mismatch
  if n < 0 then
    throw (if Decimal.isWritten n then .negativePlaces places else .mismatch .unwritten)
  match fault? t n.toNat with
  | some e => throw e
  | none => return lines t n.toNat (shownName name)

theorem linesWith_int {n : Int} (hn : 0 ≤ n) (t : Trace Float) (name : Option String) :
    linesWith t (.int n) name
      = (fault? t n.toNat).elim (.ok (lines t n.toNat (shownName name))) .error := by
  unfold linesWith
  change (if n < 0 then _ else _) = _
  rw [if_neg (Int.not_lt.mpr hn)]
  change (match fault? t n.toNat with | some e => _ | none => _) = _
  cases fault? t n.toNat <;> rfl

def fileText (ls : List String) : String :=
  "\n".intercalate ls ++ "\n"

end LSystem.Wavefront
