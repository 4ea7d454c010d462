import LSystem.Value.Number

namespace LSystem.Value

def isKey : Value → Bool
  | .list _ | .mapping _ => false
  | _ => true

def integer? : Value → Option Int
  | .bool b => some (if b then 1 else 0)
  | .int n => some n
  | .real x => match Decimal.whole x with
    | .ok n => if Float.ofInt n == x then some n else none
    | .error _ => none
  | _ => none

/-- Whether two values are the same key. The undefined real is not even the same key as itself. -/
def sameKey (v w : Value) : Bool :=
  match v.integer?, w.integer? with
  | some m, some n => m == n
  | none, none => match v, w with
    | .null, .null => true
    | .real x, .real y => x == y
    | .text s, .text t => s == t
    | _, _ => false
  | _, _ => false

def setEntry {α : Type} (k : Value) (a : α) : List (Value × α) → List (Value × α)
  | [] => [(k, a)]
  | e :: rest => if e.1.sameKey k then (e.1, a) :: rest else e :: setEntry k a rest

/-- Entries set one after the other: a key has the place where it came first, and has under it what
came last. -/
def gather {α : Type} (entries : List (Value × α)) : List (Value × α) :=
  entries.foldl (fun made e => setEntry e.1 e.2 made) []

theorem isKey_of_symbol? {v : Value} {c : Char} (h : v.symbol? = some c) : v.isKey = true := by
  cases v with
  | list items => cases h
  | mapping entries => cases h
  | null | bool | int | real | text => rfl

theorem symbol?_of_not_isKey {v : Value} (h : v.isKey = false) : v.symbol? = none :=
  Option.eq_none_iff_forall_ne_some.mpr fun _ hc => by
    rw [isKey_of_symbol? hc] at h
    cases h

@[simp] theorem gather_nil {α : Type} : gather ([] : List (Value × α)) = [] := rfl

end LSystem.Value

namespace LSystem

structure Key where
  value : Value
  isKey : value.isKey = true

def Key.ofNat (n : Nat) : Key := ⟨.int n, rfl⟩

end LSystem
