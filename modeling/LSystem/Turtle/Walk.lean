import LSystem.Action.Basic
import LSystem.Trace.Basic

namespace LSystem

structure Cursor (α : Type) where
  position : Point α
  orientation : Orientation α
  deriving Repr

namespace Turtle

variable {α : Type}

def home [Zero α] [One α] : Cursor α := ⟨.origin, .identity⟩

structure State (α : Type) where
  cursor : Cursor α
  kept : List (Cursor α)

def State.initial [Zero α] [One α] : State α := ⟨home, []⟩

variable [Add α] [Mul α]

def State.step (rotations : Rotations α) (length : α) (s : State α) :
    Option Action → State α × List (TraceItem α)
  | none => (s, [])
  | some .nothing => (s, [.vertex s.cursor.position])
  | some .forward =>
    let p := s.cursor.orientation.ahead length s.cursor.position
    ({ s with cursor.position := p }, [.vertex p])
  | some (.rotate d) =>
    ({ s with cursor.orientation := s.cursor.orientation.mul (rotations.of d) }, [])
  | some .push => ({ s with kept := s.cursor :: s.kept }, [])
  | some .pop =>
    match s.kept with
    | [] => (s, [])
    | c :: kept => (⟨c, kept⟩, [.lineBreak, .vertex c.position])

def State.after (rotations : Rotations α) (length : α) (s : State α)
    (actions : List (Option Action)) : State α :=
  actions.foldl (fun s a => (s.step rotations length a).1) s

def State.draw (rotations : Rotations α) (length : α) (s : State α) :
    List (Option Action) → List (TraceItem α)
  | [] => []
  | a :: rest =>
    let (s, items) := s.step rotations length a
    items ++ s.draw rotations length rest

def walk [Zero α] [One α] (rotations : Rotations α) (length : α) (actions : List (Option Action)) :
    List (TraceItem α) :=
  State.initial.draw rotations length actions

theorem State.after_append (rotations : Rotations α) (length : α) (s : State α)
    (u v : List (Option Action)) :
    s.after rotations length (u ++ v) = (s.after rotations length u).after rotations length v :=
  List.foldl_append

theorem State.draw_append (rotations : Rotations α) (length : α) (s : State α)
    (u v : List (Option Action)) :
    s.draw rotations length (u ++ v)
      = s.draw rotations length u ++ (s.after rotations length u).draw rotations length v := by
  induction u generalizing s with
  | nil => rfl
  | cons a u ih => simp [State.draw, State.after, ih]

end Turtle

end LSystem
