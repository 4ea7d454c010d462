import LSystem.Proofs.Turtle.Resumption
import Mathlib.LinearAlgebra.Matrix.Notation
import Mathlib.LinearAlgebra.Matrix.NonsingularInverse
import Mathlib.Tactic.LinearCombination

namespace LSystem

namespace Orientation

section Matrices

variable {α : Type}

def toMatrix (r : Orientation α) : Matrix (Fin 3) (Fin 3) α :=
  !![r.xx, r.xy, r.xz; r.yx, r.yy, r.yz; r.zx, r.zy, r.zz]

theorem toMatrix_injective {r s : Orientation α} (h : r.toMatrix = s.toMatrix) : r = s := by
  have hentry (i j : Fin 3) : r.toMatrix i j = s.toMatrix i j := by rw [h]
  cases r
  cases s
  congr 1
  · exact hentry 0 0
  · exact hentry 0 1
  · exact hentry 0 2
  · exact hentry 1 0
  · exact hentry 1 1
  · exact hentry 1 2
  · exact hentry 2 0
  · exact hentry 2 1
  · exact hentry 2 2

end Matrices

variable {R : Type} [CommRing R] {r s : Orientation R}

theorem toMatrix_identity : (identity : Orientation R).toMatrix = 1 := by
  ext i j
  fin_cases i <;> fin_cases j <;> rfl

theorem toMatrix_mul (r s : Orientation R) : (r.mul s).toMatrix = r.toMatrix * s.toMatrix := by
  ext i j
  fin_cases i <;> fin_cases j <;> simp [toMatrix, mul, Matrix.mul_apply, Fin.sum_univ_three]

theorem mul_identity (r : Orientation R) : r.mul identity = r := by
  apply toMatrix_injective
  rw [toMatrix_mul, toMatrix_identity, mul_one]

theorem mul_assoc (r s t : Orientation R) : (r.mul s).mul t = r.mul (s.mul t) := by
  apply toMatrix_injective
  simp only [toMatrix_mul, Matrix.mul_assoc]

structure IsRotation (r : Orientation R) : Prop where
  orthogonal : r.toMatrix * r.toMatrix.transpose = 1
  proper : r.toMatrix.det = 1

theorem isRotation_identity : (identity : Orientation R).IsRotation := by
  refine ⟨?_, ?_⟩
  · rw [toMatrix_identity, Matrix.transpose_one, mul_one]
  · rw [toMatrix_identity, Matrix.det_one]

theorem IsRotation.mul (hr : r.IsRotation) (hs : s.IsRotation) : (r.mul s).IsRotation := by
  refine ⟨?_, ?_⟩
  · calc (r.mul s).toMatrix * (r.mul s).toMatrix.transpose
        = r.toMatrix * (s.toMatrix * s.toMatrix.transpose) * r.toMatrix.transpose := by
          rw [toMatrix_mul, Matrix.transpose_mul]
          simp only [Matrix.mul_assoc]
      _ = 1 := by rw [hs.orthogonal, mul_one, hr.orthogonal]
  · rw [toMatrix_mul, Matrix.det_mul, hr.proper, hs.proper, mul_one]

theorem IsRotation.column (h : r.IsRotation) : r.xy * r.xy + r.yy * r.yy + r.zy * r.zy = 1 := by
  have htranspose : r.toMatrix.transpose * r.toMatrix = 1 :=
    mul_eq_one_comm.mp h.orthogonal
  have hentry : (r.toMatrix.transpose * r.toMatrix) 1 1 = (1 : Matrix (Fin 3) (Fin 3) R) 1 1 := by
    rw [htranspose]
  simpa [toMatrix, Matrix.mul_apply, Fin.sum_univ_three] using hentry

section About

variable {c s : R}

theorem transpose_about (a : Axis) (c s : R) :
    (about a c s).toMatrix.transpose = (about a c (-s)).toMatrix := by
  ext i j
  cases a <;> fin_cases i <;> fin_cases j <;> simp [toMatrix, about]

theorem about_mul_about (a : Axis) (h : c * c + s * s = 1) :
    (about a c s).mul (about a c (-s)) = identity := by
  have hswapped : s * s + c * c = 1 := by rw [add_comm, h]
  cases a <;> simp [about, mul, identity, h, hswapped, mul_comm s c]

theorem isRotation_about (a : Axis) (h : c * c + s * s = 1) : (about a c s).IsRotation := by
  refine ⟨?_, ?_⟩
  · rw [transpose_about, ← toMatrix_mul, about_mul_about a h, toMatrix_identity]
  · cases a <;> simp [toMatrix, about, Matrix.det_fin_three] <;> linear_combination h

end About

end Orientation

namespace Rotations

def exact {R : Type} [CommRing R] (c s : R) : Rotations R :=
  .ofAngle c s c (-s)

variable {R : Type} [CommRing R] {c s : R}

theorem of_exact (c s : R) (d : Direction) :
    (exact c s).of d = if d.isPositive then .about d.axis c s else .about d.axis c (-s) := by
  rw [exact, ofAngle, of_ofFunction]

theorem neg_square_sum (h : c * c + s * s = 1) : c * c + -s * -s = 1 := by
  rw [neg_mul_neg, h]

theorem isRotation_exact (h : c * c + s * s = 1) (d : Direction) :
    ((exact c s).of d).IsRotation := by
  rw [of_exact]
  split
  · exact Orientation.isRotation_about d.axis h
  · exact Orientation.isRotation_about d.axis (neg_square_sum h)

theorem exact_mul_opposite (h : c * c + s * s = 1) (d : Direction) :
    ((exact c s).of d).mul ((exact c s).of d.opposite) = .identity := by
  have hback := Orientation.about_mul_about d.axis (neg_square_sum h)
  rw [neg_neg] at hback
  rw [of_exact, of_exact, Direction.axis_opposite]
  cases d with
  | xPos => exact Orientation.about_mul_about .x h
  | yPos => exact Orientation.about_mul_about .y h
  | zPos => exact Orientation.about_mul_about .z h
  | xNeg => exact hback
  | yNeg => exact hback
  | zNeg => exact hback

end Rotations

namespace Point

def gap {R : Type} [CommRing R] (p q : Point R) : R :=
  (q.x - p.x) * (q.x - p.x) + (q.y - p.y) * (q.y - p.y) + (q.z - p.z) * (q.z - p.z)

end Point

namespace Turtle

variable {R : Type} [CommRing R] {rotations : Rotations R} {length : R} {s : State R}

theorem gap_ahead {r : Orientation R} (h : r.IsRotation) (length : R) (p : Point R) :
    p.gap (r.ahead length p) = length * length := by
  have hcolumn := h.column
  simp only [Point.gap, Orientation.ahead, add_sub_cancel_left]
  linear_combination length * length * hcolumn

structure Upright (s : State R) : Prop where
  cursor : s.cursor.orientation.IsRotation
  kept : ∀ c ∈ s.kept, c.orientation.IsRotation

theorem upright_initial : Upright (State.initial : State R) :=
  ⟨Orientation.isRotation_identity, nofun⟩

theorem Upright.step (h : Upright s) (hturns : ∀ d, (rotations.of d).IsRotation) (length : R)
    (a : Option Action) : Upright (s.step rotations length a).1 := by
  cases a with
  | none => exact h
  | some a =>
    cases a with
    | nothing => exact h
    | forward => exact ⟨h.cursor, h.kept⟩
    | rotate d => exact ⟨h.cursor.mul (hturns d), h.kept⟩
    | push => exact ⟨h.cursor, List.forall_mem_cons.mpr ⟨h.cursor, h.kept⟩⟩
    | pop =>
      obtain ⟨c, kept⟩ := s
      cases kept with
      | nil => exact h
      | cons d kept =>
        obtain ⟨htop, hbelow⟩ := List.forall_mem_cons.mp h.kept
        exact ⟨htop, hbelow⟩

theorem Upright.after (h : Upright s) (hturns : ∀ d, (rotations.of d).IsRotation) (length : R)
    (actions : List (Option Action)) : Upright (s.after rotations length actions) := by
  induction actions generalizing s with
  | nil => exact h
  | cons a actions ih => exact ih (h.step hturns length a)

theorem State.after_opposite {d : Direction}
    (h : (rotations.of d).mul (rotations.of d.opposite) = .identity) (length : R) (s : State R) :
    s.after rotations length [some (.rotate d), some (.rotate d.opposite)] = s := by
  have horientation :
      (s.cursor.orientation.mul (rotations.of d)).mul (rotations.of d.opposite)
        = s.cursor.orientation := by
    rw [Orientation.mul_assoc, h, Orientation.mul_identity]
  obtain ⟨⟨position, orientation⟩, kept⟩ := s
  exact congrArg (fun r => (⟨⟨position, r⟩, kept⟩ : State R)) horientation

theorem walk_insert_opposite {d : Direction}
    (h : (rotations.of d).mul (rotations.of d.opposite) = .identity) (length : R)
    (u v : List (Option Action)) :
    walk rotations length (u ++ [some (.rotate d), some (.rotate d.opposite)] ++ v)
      = walk rotations length (u ++ v) := by
  rw [walk, walk, List.append_assoc, State.draw_append, State.draw_append, State.draw_append,
    State.after_opposite h]
  rfl

section Plotting

variable (rotations length) (r : Resolver) (ids : Array Int)

def plotterAt? (n : Nat) : Option (Plotter R) :=
  (plotterFor (codes r ids)).run? rotations length ((codes r ids).take n)

def stateAt (n : Nat) : State R :=
  State.initial.after rotations length ((ids.toList.map r.action?).take n)

theorem exists_plotterAt (n : Nat) :
    ∃ p items, plotterAt? rotations length r ids n = some p
      ∧ p.Follows (stateAt rotations length r ids n) items 0 0 := by
  obtain ⟨p, hrun, hfollows⟩ :=
    exists_follows_take rotations length (ids.toList.map r.action?) n
  refine ⟨p, _, ?_, hfollows⟩
  rw [plotterAt?, codes_eq_toArray]
  simpa using hrun

theorem stateAt_succ {n : Nat} {id : Int} (hid : ids[n]? = some id) :
    stateAt rotations length r ids (n + 1)
      = ((stateAt rotations length r ids n).step rotations length (r.action? id)).1 := by
  have hnext : (ids.toList.map r.action?)[n]? = some (r.action? id) := by
    rw [List.getElem?_map, Array.getElem?_toList, hid, Option.map_some]
  rw [stateAt, List.take_add_one, hnext, State.after_append]
  rfl

theorem plot_insert_opposite {d : Direction}
    (h : (rotations.of d).mul (rotations.of d.opposite) = .identity) {x y : Int}
    (hx : r.action? x = some (.rotate d)) (hy : r.action? y = some (.rotate d.opposite))
    (u v : Array Int) :
    plot rotations length (codes r (u ++ #[x, y] ++ v))
      = plot rotations length (codes r (u ++ v)) := by
  have hturns : (u ++ #[x, y] ++ v).toList.map r.action?
      = u.toList.map r.action? ++ [some (.rotate d), some (.rotate d.opposite)]
        ++ v.toList.map r.action? := by
    simp [hx, hy]
  have hplain : (u ++ v).toList.map r.action?
      = u.toList.map r.action? ++ v.toList.map r.action? := by
    simp
  rw [codes_eq_toArray, codes_eq_toArray, plot_eq_walk, plot_eq_walk, hturns, hplain,
    walk_insert_opposite h]

end Plotting

theorem orientations_are_rotations {c s : R} (h : c * c + s * s = 1) (length : R) (r : Resolver)
    (ids : Array Int) :
    (∀ d, ((Rotations.exact c s).of d).IsRotation
        ∧ ((Rotations.exact c s).of d).mul ((Rotations.exact c s).of d.opposite) = .identity)
      ∧ (∀ n, ∃ p, plotterAt? (.exact c s) length r ids n = some p
          ∧ p.cursor.orientation.IsRotation
          ∧ ∀ i < p.depth, ∃ k, p.stack[i]? = some (some k) ∧ k.orientation.IsRotation)
      ∧ (∀ n id, ids[n]? = some id → r.action? id = some .forward →
          ∃ p q, plotterAt? (.exact c s) length r ids n = some p
            ∧ plotterAt? (.exact c s) length r ids (n + 1) = some q
            ∧ p.cursor.position.gap q.cursor.position = length * length)
      ∧ ∀ (u v : Array Int) x y d, r.action? x = some (.rotate d) →
          r.action? y = some (.rotate d.opposite) →
          plot (.exact c s) length (codes r (u ++ #[x, y] ++ v))
            = plot (.exact c s) length (codes r (u ++ v)) := by
  have hturns := Rotations.isRotation_exact h
  have hupright (n : Nat) : Upright (stateAt (.exact c s) length r ids n) :=
    upright_initial.after hturns length _
  refine ⟨fun d => ⟨hturns d, Rotations.exact_mul_opposite h d⟩, ?_, ?_, ?_⟩
  · intro n
    obtain ⟨p, items, hp, hfollows⟩ := exists_plotterAt (.exact c s) length r ids n
    refine ⟨p, hp, ?_, fun i hi => ?_⟩
    · rw [hfollows.cursor]
      exact (hupright n).cursor
    · obtain ⟨k, hk, hstack⟩ := hfollows.exists_kept hi
      exact ⟨k, hstack, (hupright n).kept k hk⟩
  · intro n id hid hforward
    obtain ⟨p, before, hp, hbefore⟩ := exists_plotterAt (.exact c s) length r ids n
    obtain ⟨q, after, hq, hafter⟩ := exists_plotterAt (.exact c s) length r ids (n + 1)
    refine ⟨p, q, hp, hq, ?_⟩
    rw [hbefore.cursor, hafter.cursor, stateAt_succ _ _ _ _ hid, hforward]
    exact gap_ahead (hupright n).cursor length _
  · intro u v x y d hx hy
    exact plot_insert_opposite _ _ r (Rotations.exact_mul_opposite h d) hx hy u v

def tendril : Dictionary Int Action :=
  [(0, .forward), (1, .push), (2, .pop), (3, .rotate .zPos), (4, .rotate .zNeg)]

theorem orientations_are_rotations_tendril :
    (3 / 5 : ℚ) * (3 / 5) + 4 / 5 * (4 / 5) = 1
      ∧ (∃ p, plotterAt? (.exact (3 / 5 : ℚ) (4 / 5)) 2 (.mapping tendril) #[3, 1, 3, 0, 2, 0] 3
            = some p
          ∧ p.cursor.orientation.IsRotation
          ∧ ∀ i < p.depth, ∃ k, p.stack[i]? = some (some k) ∧ k.orientation.IsRotation)
      ∧ (∃ p q, plotterAt? (.exact (3 / 5 : ℚ) (4 / 5)) 2 (.mapping tendril) #[3, 1, 3, 0, 2, 0] 3
            = some p
          ∧ plotterAt? (.exact (3 / 5 : ℚ) (4 / 5)) 2 (.mapping tendril) #[3, 1, 3, 0, 2, 0] 4
            = some q
          ∧ p.cursor.position.gap q.cursor.position = 2 * 2)
      ∧ plot (.exact (3 / 5 : ℚ) (4 / 5)) 2 (codes (.mapping tendril) (#[3, 0] ++ #[4, 3] ++ #[0]))
          = plot (.exact (3 / 5 : ℚ) (4 / 5)) 2 (codes (.mapping tendril) (#[3, 0] ++ #[0])) := by
  have hangle : (3 / 5 : ℚ) * (3 / 5) + 4 / 5 * (4 / 5) = 1 := by norm_num
  obtain ⟨-, hplotter, hforward, hopposite⟩ :=
    orientations_are_rotations hangle 2 (.mapping tendril) #[3, 1, 3, 0, 2, 0]
  exact ⟨hangle, hplotter 3, hforward 3 0 rfl rfl, hopposite #[3, 0] #[0] 4 3 .zNeg rfl rfl⟩

end Turtle

end LSystem
