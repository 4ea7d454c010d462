import LSystem.Proofs.Garden.Events
import LSystem.Proofs.Token.Declared

namespace LSystem

def Event.asksFor (n : Nat) : Event → Bool
  | .rebuild id => id.plantNumber? == some n
  | _ => false

inductive Happening where
  | posted (e : Event)
  | taken (e : Event)
  | made (n : Nat)
  | changed (plant : Key)

namespace Happening

def isPosted (n : Nat) : Happening → Bool
  | .posted e => e.asksFor n
  | _ => false

def isTaken (n : Nat) : Happening → Bool
  | .taken e => e.asksFor n
  | _ => false

def isMade (n : Nat) : Happening → Bool
  | .made m => m == n
  | _ => false

def isChanged (n : Nat) : Happening → Bool
  | .changed id => id.plantNumber? == some n
  | _ => false

end Happening

namespace Garden

variable {g g' g'' : Garden} {n : Nat}

def pendingFor (g : Garden) (n : Nat) : Nat :=
  g.queue.countP (Event.asksFor n)

def Balanced (n : Nat) (g : Garden) (happenings : List Happening) (g' : Garden) : Prop :=
  happenings.countP (Happening.isTaken n) + g'.pendingFor n
    = g.pendingFor n + happenings.countP (Happening.isPosted n)
      + happenings.countP (Happening.isMade n) + happenings.countP (Happening.isChanged n)

theorem Balanced.append {xs ys : List Happening} (hxs : Balanced n g xs g')
    (hys : Balanced n g' ys g'') : Balanced n g (xs ++ ys) g'' := by
  simp only [Balanced, List.countP_append] at hxs hys ⊢
  omega

end Garden

end LSystem
