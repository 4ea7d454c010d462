import LSystem.Turtle.Plotter
import Mathlib.Algebra.GroupWithZero.Nat

namespace LSystem

variable {α : Type}

def PlotRow.of : TraceItem α → PlotRow α
  | .vertex p => .vertex p
  | .lineBreak => .lineBreak

def rowsFor : Option Action → Nat
  | some .pop => 2
  | _ => 1

def placesFor : Option Action → Nat
  | some .push => 1
  | _ => 0

namespace Plotter

open Turtle

/-- A plotter that has drawn `items` and has at least `n` rows and `k` places left. -/
structure Follows (p : Plotter α) (s : State α) (items : List (TraceItem α)) (n k : Nat) :
    Prop where
  cursor : p.cursor = s.cursor
  written : p.written = items.length
  depth : p.depth = s.kept.length
  rows : ∃ free, n ≤ free.length ∧ p.rows.toList = items.map PlotRow.of ++ free
  stack : ∃ free, k ≤ free.length ∧ p.stack.toList = s.kept.reverse.map some ++ free

variable {p : Plotter α} {s : State α} {items : List (TraceItem α)} {n k : Nat}

theorem follows_create [Zero α] [One α] (n k : Nat) :
    (create n k : Plotter α).Follows .initial [] n k := by
  refine ⟨rfl, rfl, rfl, ?_, ?_⟩
  · exact ⟨List.replicate n .blank, by simp, by simp [create]⟩
  · exact ⟨List.replicate k none, by simp, by simp [create, State.initial]⟩

namespace Follows

theorem weaken (h : p.Follows s items n k) {m j : Nat} (hm : m ≤ n) (hj : j ≤ k) :
    p.Follows s items m j := by
  obtain ⟨rows, hrows, heq⟩ := h.rows
  obtain ⟨stack, hstack, heq'⟩ := h.stack
  exact ⟨h.cursor, h.written, h.depth, ⟨rows, Nat.le_trans hm hrows, heq⟩,
    ⟨stack, Nat.le_trans hj hstack, heq'⟩⟩

theorem move (h : p.Follows s items n k) (c : Cursor α) :
    { p with cursor := c }.Follows { s with cursor := c } items n k :=
  ⟨rfl, h.written, h.depth, h.rows, h.stack⟩

theorem write (h : p.Follows s items (n + 1) k) (item : TraceItem α) :
    ∃ q, p.write? (.of item) = some q ∧ q.Follows s (items ++ [item]) n k := by
  obtain ⟨free, hfree, hrows⟩ := h.rows
  obtain ⟨row, free, rfl⟩ := List.exists_cons_of_length_pos (Nat.lt_of_lt_of_le (by omega) hfree)
  have hroom : p.written < p.rows.size := by
    rw [h.written, ← Array.length_toList, hrows]
    simp
  refine ⟨_, if_pos hroom, h.cursor, ?_, h.depth, ⟨free, by simpa using hfree, ?_⟩, h.stack⟩
  · simp [h.written]
  · rw [Array.toList_setIfInBounds, hrows, h.written]
    simp

theorem keep (h : p.Follows s items n (k + 1)) :
    ∃ q, p.keep? = some q ∧ q.Follows { s with kept := s.cursor :: s.kept } items n k := by
  obtain ⟨free, hfree, hstack⟩ := h.stack
  obtain ⟨place, free, rfl⟩ := List.exists_cons_of_length_pos (Nat.lt_of_lt_of_le (by omega) hfree)
  have hroom : p.depth < p.stack.size := by
    rw [h.depth, ← Array.length_toList, hstack]
    simp
  refine ⟨_, if_pos hroom, h.cursor, h.written, ?_, h.rows, ⟨free, by simpa using hfree, ?_⟩⟩
  · simp [h.depth]
  · rw [Array.toList_setIfInBounds, hstack, h.depth, h.cursor]
    simp

theorem goBack {c d : Cursor α} {kept : List (Cursor α)}
    (h : p.Follows ⟨c, d :: kept⟩ items n k) :
    ∃ q, p.return? = some q ∧ q.Follows ⟨d, kept⟩ items n k := by
  obtain ⟨free, hfree, hstack⟩ := h.stack
  have hlast : p.depth - 1 = kept.length := by
    rw [h.depth]
    simp
  have htop : p.stack[p.depth - 1]? = some (some d) := by
    rw [← Array.getElem?_toList, hstack, hlast]
    simp
  refine ⟨{ p with cursor := d, depth := p.depth - 1 }, ?_, rfl, h.written, hlast, h.rows, ?_⟩
  · simp [return?, htop]
  · exact ⟨some d :: free, Nat.le_succ_of_le hfree, by simpa using hstack⟩

theorem exists_kept (h : p.Follows s items n k) {i : Nat} (hi : i < p.depth) :
    ∃ c ∈ s.kept, p.stack[i]? = some (some c) := by
  obtain ⟨free, -, hstack⟩ := h.stack
  have hlt : i < s.kept.reverse.length := by
    rw [List.length_reverse, ← h.depth]
    exact hi
  refine ⟨s.kept.reverse[i], List.mem_reverse.mp (List.getElem_mem hlt), ?_⟩
  rw [← Array.getElem?_toList, hstack, List.getElem?_append_left (by simpa using hlt),
    List.getElem?_map, List.getElem?_eq_getElem hlt, Option.map_some]

end Follows

section

variable [Add α] [Mul α] (rotations : Rotations α) (length : α)

theorem step?_nothing (p : Plotter α) :
    p.step? rotations length (ActionCode.of (some .nothing))
      = p.write? (.vertex p.cursor.position) :=
  rfl

theorem step?_forward (p : Plotter α) :
    p.step? rotations length (ActionCode.of (some .forward))
      = { p with cursor.position := p.cursor.orientation.ahead length p.cursor.position }.write?
          (.vertex (p.cursor.orientation.ahead length p.cursor.position)) :=
  rfl

theorem step?_pop_of_depth_zero (h : p.depth = 0) :
    p.step? rotations length (ActionCode.of (some .pop)) = some p :=
  if_pos h

theorem step?_pop_of_return {q : Plotter α} (h : p.depth ≠ 0) (hq : p.return? = some q) :
    p.step? rotations length (ActionCode.of (some .pop))
      = (q.write? .lineBreak).bind fun q => q.write? (.vertex q.cursor.position) := by
  change (if p.depth = 0 then some p else _) = _
  rw [if_neg h, hq]
  rfl

theorem step?_rotate (p : Plotter α) (d : Direction) :
    p.step? rotations length (ActionCode.of (some (.rotate d)))
      = some { p with cursor.orientation := p.cursor.orientation.mul (rotations.of d) } := by
  cases d <;> rfl

variable {rotations length}

theorem Follows.forward (h : p.Follows s items (n + 1) k) :
    ∃ q, p.step? rotations length (ActionCode.of (some .forward)) = some q ∧
      q.Follows (s.step rotations length (some .forward)).1
        (items ++ (s.step rotations length (some .forward)).2) n k := by
  let ahead := s.cursor.orientation.ahead length s.cursor.position
  have hmove := h.move ⟨ahead, s.cursor.orientation⟩
  obtain ⟨q, hq, hfollows⟩ := hmove.write (.vertex ahead)
  refine ⟨q, ?_, hfollows⟩
  rw [step?_forward, h.cursor]
  exact hq

theorem Follows.pop (h : p.Follows s items (n + 2) k) :
    ∃ q, p.step? rotations length (ActionCode.of (some .pop)) = some q ∧
      q.Follows (s.step rotations length (some .pop)).1
        (items ++ (s.step rotations length (some .pop)).2) n k := by
  obtain ⟨c, kept⟩ := s
  cases kept with
  | nil =>
    refine ⟨p, step?_pop_of_depth_zero rotations length h.depth, ?_⟩
    simpa [State.step] using h.weaken (Nat.le_add_right n 2) (Nat.le_refl k)
  | cons d kept =>
    have hdepth : p.depth ≠ 0 := by simp [h.depth]
    obtain ⟨back, hback, hreturned⟩ := h.goBack
    obtain ⟨broken, hbroken, hafter⟩ := hreturned.write .lineBreak
    obtain ⟨q, hq, hfollows⟩ := hafter.write (.vertex d.position)
    refine ⟨q, ?_, ?_⟩
    · have hposition : broken.cursor.position = d.position := by rw [hafter.cursor]
      have hbroken : back.write? .lineBreak = some broken := hbroken
      rw [step?_pop_of_return rotations length hdepth hback, hbroken, Option.bind_some, hposition]
      exact hq
    · simpa [State.step] using hfollows

theorem Follows.step {a : Option Action}
    (h : p.Follows s items (n + rowsFor a) (k + placesFor a)) :
    ∃ q, p.step? rotations length (ActionCode.of a) = some q ∧
      q.Follows (s.step rotations length a).1 (items ++ (s.step rotations length a).2) n k := by
  have hweak : p.Follows s items n k := h.weaken (Nat.le_add_right n _) (Nat.le_add_right k _)
  cases a with
  | none => exact ⟨p, rfl, by simpa [State.step] using hweak⟩
  | some a =>
    cases a with
    | nothing =>
      have hroom : p.Follows s items (n + 1) k := h
      obtain ⟨q, hq, hfollows⟩ := hroom.write (.vertex s.cursor.position)
      refine ⟨q, ?_, hfollows⟩
      rw [step?_nothing, h.cursor]
      exact hq
    | forward => exact Follows.forward h
    | rotate d =>
      refine ⟨_, step?_rotate rotations length p d, ?_⟩
      rw [h.cursor]
      simpa [State.step] using
        hweak.move ⟨s.cursor.position, s.cursor.orientation.mul (rotations.of d)⟩
    | push =>
      obtain ⟨q, hq, hfollows⟩ := (h.weaken (Nat.le_add_right n _) (Nat.le_refl _)).keep
      exact ⟨q, hq, by simpa [State.step] using hfollows⟩
    | pop => exact Follows.pop h

variable (rotations length) in
theorem Follows.run {actions : List (Option Action)}
    (h : p.Follows s items (actions.map rowsFor).sum (actions.map placesFor).sum) :
    ∃ q, p.run? rotations length (actions.map ActionCode.of).toArray = some q ∧
      q.Follows (s.after rotations length actions) (items ++ s.draw rotations length actions) 0 0
      := by
  simp only [run?, List.foldlM_toArray]
  induction actions generalizing p s items with
  | nil => exact ⟨p, rfl, by simpa [State.after, State.draw] using h⟩
  | cons a actions ih =>
    rw [List.map_cons, List.map_cons, List.sum_cons, List.sum_cons, Nat.add_comm (rowsFor a),
      Nat.add_comm (placesFor a)] at h
    obtain ⟨next, hnext, hfollows⟩ := h.step
    obtain ⟨q, hq, hdrawn⟩ := ih hfollows
    refine ⟨q, ?_, ?_⟩
    · rw [List.map_cons, List.foldlM_cons, hnext]
      exact hq
    · simpa [State.after, State.draw] using hdrawn

end

end Plotter

end LSystem
