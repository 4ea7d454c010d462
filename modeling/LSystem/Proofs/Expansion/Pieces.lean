import LSystem.Proofs.Expansion.Limit
import Mathlib.Data.List.Chain
import Mathlib.Logic.ExistsUnique
import Mathlib.Order.Monotone.Basic

namespace LSystem

namespace ProductionTable

variable {t : ProductionTable} {g : Grammar} {n : Nat} {ids : List Int} {id : Int} {i j k l : Nat}

def outStart (t : ProductionTable) (ids : List Int) (k : Nat) : Nat :=
  t.nextLength (ids.take k).toArray

def Fills (t : ProductionTable) (ids : List Int) (k j : Nat) : Prop :=
  t.outStart ids k ≤ j ∧ j < t.outStart ids (k + 1)

theorem foldl_length (t : ProductionTable) (ids : List Int) (k : Nat) :
    ids.foldl (fun n id => n + t.length id) k = k + t.nextLength ids.toArray := by
  rw [nextLength, List.foldl_toArray]
  induction ids generalizing k with
  | nil => rfl
  | cons id ids ih =>
    rw [List.foldl_cons, List.foldl_cons, ih, ih (0 + _), Nat.zero_add, Nat.add_assoc]

theorem nextLength_append (t : ProductionTable) (xs ys : List Int) :
    t.nextLength (xs ++ ys).toArray = t.nextLength xs.toArray + t.nextLength ys.toArray := by
  rw [nextLength, List.foldl_toArray, List.foldl_append, foldl_length, foldl_length, Nat.zero_add]

@[simp] theorem outStart_zero (t : ProductionTable) (ids : List Int) : t.outStart ids 0 = 0 := rfl

theorem outStart_succ (t : ProductionTable) (ids : List Int) (k : Nat) :
    t.outStart ids (k + 1) = t.outStart ids k + (ids[k]?.map t.length).getD 0 := by
  rw [outStart, List.take_add_one, nextLength_append, outStart]
  cases ids[k]? with
  | none => rfl
  | some id => exact congrArg _ (Nat.zero_add _)

theorem outStart_mono (t : ProductionTable) (ids : List Int) : Monotone (t.outStart ids) :=
  monotone_nat_of_le_succ fun k => t.outStart_succ ids k ▸ Nat.le_add_right _ _

theorem Fills.le (hi : t.Fills ids k i) (hj : t.Fills ids l j) (h : i ≤ j) : k ≤ l := by
  refine Nat.le_of_not_lt fun hlt => ?_
  have hend := t.outStart_mono ids (Nat.succ_le_of_lt hlt)
  exact absurd (((hend.trans hi.1).trans h).trans_lt hj.2) (Nat.lt_irrefl _)

end ProductionTable

namespace Grammar

open ProductionTable

variable {g : Grammar}

section Reached

variable (t : ProductionTable) (limit : Option Int)

end Reached

def reached (g : Grammar) (iterations : Nat) (limit : Option Int) : List (Array Int) :=
  g.start.toArray :: (g.expandKeeping iterations limit).1

end Grammar

end LSystem
