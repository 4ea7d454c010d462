import LSystem.Proofs.Turtle.Nesting
import LSystem.Proofs.Turtle.Resumption

namespace LSystem

namespace Trace

variable {α β : Type}

def outline (items : List (TraceItem α)) : List Bool :=
  items.map TraceItem.isBreak

structure SameShape (t : Trace α) (t' : Trace β) : Prop where
  offsets : t.offsets = t'.offsets
  pointCount : t.pointCount = t'.pointCount
  breakCount : t.breakCount = t'.breakCount
  runCount : t.runCount = t'.runCount
  vertexCount : t.vertexCount = t'.vertexCount

theorem sameShape_of_offsets {t : Trace α} {t' : Trace β} (hoffsets : t.offsets = t'.offsets)
    (hpoints : t.pointCount = t'.pointCount) : t.SameShape t' where
  offsets := hoffsets
  pointCount := hpoints
  breakCount := by rw [breakCount, breakCount, hoffsets]
  runCount := by rw [runCount, runCount, hoffsets]
  vertexCount := by rw [vertexCount, vertexCount, hpoints, breakCount, breakCount, hoffsets]

theorem foldl_pushItem_of_outline {items : List (TraceItem α)} {items' : List (TraceItem β)}
    (h : outline items = outline items') (t : Trace α) (t' : Trace β)
    (hoffsets : t.offsets = t'.offsets) (hsize : t.coords.size = t'.coords.size) :
    (items.foldl pushItem t).offsets = (items'.foldl pushItem t').offsets
      ∧ (items.foldl pushItem t).coords.size = (items'.foldl pushItem t').coords.size := by
  induction items generalizing items' t t' with
  | nil =>
    obtain rfl := List.map_eq_nil_iff.mp h.symm
    exact ⟨hoffsets, hsize⟩
  | cons item items ih =>
    obtain ⟨item', rest, rfl, hfirst, hrest⟩ := List.map_eq_cons_iff.mp h.symm
    cases item with
    | vertex p =>
      cases item' with
      | vertex q => exact ih hrest.symm _ _ hoffsets (by simp [pushItem, hsize])
      | lineBreak => cases hfirst
    | lineBreak =>
      cases item' with
      | vertex q => cases hfirst
      | lineBreak => exact ih hrest.symm _ _ (by simp [pushItem, hoffsets, hsize]) hsize

theorem sameShape_ofItems {items : List (TraceItem α)} {items' : List (TraceItem β)}
    (h : outline items = outline items') : (ofItems items).SameShape (ofItems items') := by
  obtain ⟨hoffsets, hsize⟩ :=
    foldl_pushItem_of_outline h ⟨#[], #[0]⟩ ⟨#[], #[0]⟩ rfl rfl
  refine sameShape_of_offsets ?_ hsize
  rw [ofItems, ofItems, close, close, hoffsets, hsize]

theorem breakCount_eq_count_outline (items : List (TraceItem α)) :
    (ofItems items).breakCount = (outline items).count true := by
  rw [breakCount_ofItems, outline, List.count_eq_countP, List.countP_map]
  congr 1
  funext item
  cases item <;> rfl

theorem pointCount_eq_count_outline (items : List (TraceItem α)) :
    (ofItems items).pointCount = (outline items).count false := by
  rw [pointCount_ofItems, outline, List.count_eq_countP, List.countP_map]
  congr 1
  funext item
  cases item <;> rfl

end Trace

namespace Turtle

open Trace

def outlineFrom : Nat → List (Option Action) → List Bool
  | _, [] => []
  | depth, some .nothing :: rest => false :: outlineFrom depth rest
  | depth, some .forward :: rest => false :: outlineFrom depth rest
  | depth, some .push :: rest => outlineFrom (depth + 1) rest
  | 0, some .pop :: rest => outlineFrom 0 rest
  | depth + 1, some .pop :: rest => true :: false :: outlineFrom depth rest
  | depth, some (.rotate _) :: rest => outlineFrom depth rest
  | depth, none :: rest => outlineFrom depth rest

def turns : Option Action → Bool
  | some (.rotate _) => true
  | _ => false

variable {α : Type}

theorem outline_draw [Add α] [Mul α] (rotations : Rotations α) (length : α) (s : State α)
    (actions : List (Option Action)) :
    outline (s.draw rotations length actions) = outlineFrom s.kept.length actions := by
  induction actions generalizing s with
  | nil => rfl
  | cons a actions ih =>
    have hdraw : outline (s.draw rotations length (a :: actions))
        = outline (s.step rotations length a).2
          ++ outlineFrom (s.step rotations length a).1.kept.length actions := by
      rw [← ih]
      exact List.map_append
    rw [hdraw]
    obtain ⟨c, kept⟩ := s
    rcases a with _ | (_ | _ | _ | _ | _)
    case some.pop => cases kept <;> rfl
    all_goals rfl

theorem outlineFrom_filter (depth : Nat) (actions : List (Option Action)) :
    outlineFrom depth (actions.filter fun a => !turns a) = outlineFrom depth actions := by
  induction actions generalizing depth with
  | nil => rfl
  | cons a actions ih =>
    rcases a with _ | (_ | _ | _ | _ | _)
    case none => exact ih depth
    case some.nothing => exact congrArg (false :: ·) (ih depth)
    case some.forward => exact congrArg (false :: ·) (ih depth)
    case some.rotate => exact ih depth
    case some.push => exact ih (depth + 1)
    case some.pop =>
      cases depth with
      | zero => exact ih 0
      | succ depth => exact congrArg (true :: false :: ·) (ih depth)

theorem count_true_outlineFrom (depth : Nat) (actions : List (Option Action)) :
    (outlineFrom depth actions).count true = returns depth actions := by
  induction actions generalizing depth with
  | nil => rfl
  | cons a actions ih =>
    rcases a with _ | (_ | _ | _ | _ | _)
    case some.pop => cases depth <;> simp [outlineFrom, returns, ih]
    all_goals simp [outlineFrom, returns, ih]

theorem count_false_outlineFrom (depth : Nat) (actions : List (Option Action)) :
    (outlineFrom depth actions).count false
      = actions.count (some .nothing) + actions.count (some .forward) + returns depth actions := by
  induction actions generalizing depth with
  | nil => rfl
  | cons a actions ih =>
    rcases a with _ | (_ | _ | _ | _ | _)
    case some.nothing | some.forward =>
      simp [outlineFrom, returns, ih]
      omega
    case some.pop => cases depth <;> simp [outlineFrom, returns, ih, Nat.add_assoc]
    all_goals simp [outlineFrom, returns, ih]

theorem ne_nil_of_mem_laterRuns_walk [Zero α] [One α] [Add α] [Mul α] (rotations : Rotations α)
    (length : α) (actions : List (Option Action)) :
    ∀ run ∈ laterRuns (walk rotations length actions), run ≠ [] := by
  intro run hrun
  obtain ⟨before, after, hitems, rfl⟩ := exists_of_mem_laterRuns hrun
  obtain ⟨-, hresumes⟩ := rooted_initial.run rotations length actions
  obtain ⟨p, rest, rfl, -⟩ := hresumes before after hitems
  exact List.cons_ne_nil p _

theorem outline_walk (pen : Pen) (actions : List (Option Action)) :
    outline (walk (.ofDegrees pen.rotationAngle) pen.segmentLength actions)
      = outlineFrom 0 actions :=
  outline_draw _ _ State.initial actions

theorem breakCount_interpret (r : Resolver) (pen : Pen) (ids : Array Int) :
    (interpret r pen ids).breakCount = returns 0 (ids.toList.map r.action?) := by
  rw [interpret_eq_walk, breakCount_eq_count_outline, outline_walk, count_true_outlineFrom]

theorem pointCount_interpret (r : Resolver) (pen : Pen) (ids : Array Int) :
    (interpret r pen ids).pointCount
      = (ids.toList.map r.action?).count (some .nothing)
        + (ids.toList.map r.action?).count (some .forward)
        + returns 0 (ids.toList.map r.action?) := by
  rw [interpret_eq_walk, pointCount_eq_count_outline, outline_walk, count_false_outlineFrom]

theorem sameShape_interpret {r : Resolver} {ids ids' : Array Int}
    (h : outlineFrom 0 (ids.toList.map r.action?) = outlineFrom 0 (ids'.toList.map r.action?))
    (pen pen' : Pen) : (interpret r pen ids).SameShape (interpret r pen' ids') := by
  rw [interpret_eq_walk, interpret_eq_walk]
  apply sameShape_ofItems
  rw [outline_walk, outline_walk, h]

theorem shape_is_decided_by_symbols (r : Resolver) (ids : Array Int) (pen pen' : Pen) :
    let actions := ids.toList.map r.action?
    (interpret r pen ids).SameShape (interpret r pen' ids)
      ∧ (interpret r pen ids).SameShape
          (interpret r pen' (ids.filter fun id => !turns (r.action? id)))
      ∧ (interpret r pen ids).breakCount = returns 0 actions
      ∧ (interpret r pen ids).pointCount
          = actions.count (some .nothing) + actions.count (some .forward) + returns 0 actions
      ∧ ∀ run ∈ (interpret r pen ids).runs.tail, run ≠ [] := by
  intro actions
  have hfilter : (ids.filter fun id => !turns (r.action? id)).toList.map r.action?
      = actions.filter fun a => !turns a := by
    rw [Array.toList_filter, List.filter_map]
    rfl
  refine ⟨sameShape_interpret rfl pen pen', sameShape_interpret ?_ pen pen',
    breakCount_interpret r pen ids, pointCount_interpret r pen ids, ?_⟩
  · rw [hfilter, outlineFrom_filter]
  · rw [interpret_eq_walk, runs_ofItems]
    exact ne_nil_of_mem_laterRuns_walk _ _ actions

theorem shape_is_decided_by_symbols_twig :
    (interpret (.mapping twig) ⟨1, 90⟩ #[2, 3, 0, 1, 3, 0, 2, 2, 0]).SameShape
        (interpret (.mapping twig) ⟨2, 30⟩ #[2, 0, 1, 0, 2, 2, 0])
      ∧ (interpret (.mapping twig) ⟨1, 90⟩ #[2, 3, 0, 1, 3, 0, 2, 2, 0]).breakCount = 1
      ∧ (interpret (.mapping twig) ⟨1, 90⟩ #[2, 3, 0, 1, 3, 0, 2, 2, 0]).pointCount = 4
      ∧ ∀ run ∈ (interpret (.mapping twig) ⟨1, 90⟩ #[2, 3, 0, 1, 3, 0, 2, 2, 0]).runs.tail,
          run ≠ [] := by
  obtain ⟨-, hshape, hbreaks, hpoints, hruns⟩ := shape_is_decided_by_symbols (.mapping twig)
    #[2, 3, 0, 1, 3, 0, 2, 2, 0] ⟨1, 90⟩ ⟨2, 30⟩
  exact ⟨hshape, hbreaks, hpoints, hruns⟩

end Turtle

end LSystem
