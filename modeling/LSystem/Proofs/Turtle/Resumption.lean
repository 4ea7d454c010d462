import LSystem.Proofs.Trace.Runs
import LSystem.Proofs.Turtle.Interpretation
import Mathlib.Data.List.Induction

namespace LSystem

variable {α : Type}

namespace Trace

variable [Zero α]

def lastPoint (t : Trace α) : Point α :=
  t.coords.back?.getD .origin

theorem lastPoint_ofItems_vertex (items : List (TraceItem α)) (p : Point α) :
    (ofItems (items ++ [.vertex p])).lastPoint = p := by
  simp [lastPoint, ofItems, close, pushItem]

theorem lastPoint_ofItems_lineBreak (items : List (TraceItem α)) :
    (ofItems (items ++ [.lineBreak])).lastPoint = (ofItems items).lastPoint := by
  simp [lastPoint, ofItems, close, pushItem]

end Trace

namespace Turtle

open Trace

section Items

variable [Zero α]

def Known (drawn : List (TraceItem α)) (p : Point α) : Prop :=
  p = .origin ∨ .vertex p ∈ drawn

def Resumes (drawn items : List (TraceItem α)) : Prop :=
  ∀ before after, items = before ++ .lineBreak :: after →
    ∃ p rest, after = .vertex p :: rest ∧ Known (drawn ++ before) p

variable {drawn u v : List (TraceItem α)} {p : Point α}

theorem Known.append (h : Known drawn p) (u : List (TraceItem α)) : Known (drawn ++ u) p :=
  h.imp id fun hmem => List.mem_append_left u hmem

theorem known_lastPoint (drawn : List (TraceItem α)) : Known drawn (ofItems drawn).lastPoint := by
  induction drawn using List.reverseRecOn with
  | nil => exact Or.inl rfl
  | append_singleton drawn item ih =>
    cases item with
    | vertex p =>
      rw [lastPoint_ofItems_vertex]
      exact Or.inr (by simp)
    | lineBreak =>
      rw [lastPoint_ofItems_lineBreak]
      exact ih.append _

theorem resumes_of_not_mem (h : .lineBreak ∉ u) : Resumes drawn u := by
  rintro before after rfl
  exact absurd (by simp) h

theorem resumes_nil (drawn : List (TraceItem α)) : Resumes drawn [] :=
  resumes_of_not_mem List.not_mem_nil

theorem resumes_vertex (drawn : List (TraceItem α)) (p : Point α) : Resumes drawn [.vertex p] :=
  resumes_of_not_mem (by simp)

theorem resumes_lineBreak (h : Known drawn p) : Resumes drawn [.lineBreak, .vertex p] := by
  intro before after heq
  rcases List.cons_eq_append_iff.mp heq with ⟨rfl, hafter⟩ | ⟨rest, -, hrest⟩
  · obtain ⟨-, rfl⟩ := List.cons.inj hafter
    exact ⟨p, [], rfl, h.append []⟩
  · cases rest <;> simp at hrest

theorem Resumes.append (hu : Resumes drawn u) (hv : Resumes (drawn ++ u) v) :
    Resumes drawn (u ++ v) := by
  intro before after heq
  rcases List.append_eq_append_iff.mp heq with ⟨w, rfl, hafter⟩ | ⟨w, hbefore, hafter⟩
  · rw [← List.append_assoc]
    exact hv w after hafter
  · -- the break is the first item of `v`, or else it is in `u`
    cases w with
    | nil =>
      rw [List.append_nil] at hbefore
      obtain ⟨p, rest, hfirst, hknown⟩ := hv [] after hafter.symm
      exact ⟨p, rest, hfirst, by simpa [hbefore] using hknown⟩
    | cons item w =>
      obtain ⟨rfl, rfl⟩ := List.cons.inj hafter
      obtain ⟨p, rest, rfl, hknown⟩ := hu before w hbefore
      exact ⟨p, rest ++ v, rfl, hknown⟩

end Items

section Walk

/-- A turtle that stands where the last vertex was drawn and keeps known points only. -/
structure Rooted [Zero α] (drawn : List (TraceItem α)) (s : State α) : Prop where
  cursor : s.cursor.position = (ofItems drawn).lastPoint
  kept : ∀ c ∈ s.kept, Known drawn c.position

variable [Zero α] {drawn : List (TraceItem α)} {s : State α}

theorem rooted_initial [One α] : Rooted [] (State.initial : State α) :=
  ⟨rfl, by simp [State.initial]⟩

theorem Rooted.vertex (h : Rooted drawn s) (c : Cursor α) :
    Rooted (drawn ++ [.vertex c.position]) { s with cursor := c } where
  cursor := (lastPoint_ofItems_vertex drawn c.position).symm
  kept d hd := (h.kept d hd).append _

theorem Rooted.goBack {c d : Cursor α} {kept : List (Cursor α)} (h : Rooted drawn ⟨c, d :: kept⟩) :
    Rooted (drawn ++ [.lineBreak, .vertex d.position]) ⟨d, kept⟩ where
  cursor := by
    rw [List.append_cons, lastPoint_ofItems_vertex]
  kept e he := (h.kept e (List.mem_cons_of_mem d he)).append _

variable [Add α] [Mul α] (rotations : Rotations α) (length : α)

theorem Rooted.step (h : Rooted drawn s) (a : Option Action) :
    Rooted (drawn ++ (s.step rotations length a).2) (s.step rotations length a).1
      ∧ Resumes drawn (s.step rotations length a).2 := by
  have hstill : Rooted (drawn ++ []) s := by rwa [List.append_nil]
  have hnone := resumes_nil drawn
  cases a with
  | none => exact ⟨hstill, hnone⟩
  | some a =>
    cases a with
    | nothing => exact ⟨h.vertex s.cursor, resumes_vertex drawn _⟩
    | forward => exact ⟨h.vertex ⟨_, s.cursor.orientation⟩, resumes_vertex drawn _⟩
    | rotate d => exact ⟨⟨hstill.cursor, hstill.kept⟩, hnone⟩
    | push =>
      refine ⟨⟨hstill.cursor, fun c hc => ?_⟩, hnone⟩
      rcases List.mem_cons.mp hc with rfl | hc
      · -- the place kept is where the turtle stands, at the last vertex
        rw [hstill.cursor]
        exact known_lastPoint _
      · exact hstill.kept c hc
    | pop =>
      obtain ⟨c, kept⟩ := s
      cases kept with
      | nil => exact ⟨hstill, hnone⟩
      | cons d kept => exact ⟨h.goBack, resumes_lineBreak (h.kept d List.mem_cons_self)⟩

theorem Rooted.run (h : Rooted drawn s) (actions : List (Option Action)) :
    Rooted (drawn ++ s.draw rotations length actions) (s.after rotations length actions)
      ∧ Resumes drawn (s.draw rotations length actions) := by
  induction actions generalizing drawn s with
  | nil => exact ⟨by simpa [State.draw, State.after] using h, resumes_nil drawn⟩
  | cons a actions ih =>
    obtain ⟨hnext, hfirst⟩ := h.step rotations length a
    obtain ⟨hend, hrest⟩ := ih hnext
    refine ⟨?_, hfirst.append hrest⟩
    rwa [List.append_assoc] at hend

end Walk

theorem exists_follows_take [Zero α] [One α] [Add α] [Mul α] (rotations : Rotations α) (length : α)
    (actions : List (Option Action)) (n : Nat) :
    ∃ p, (plotterFor (actions.map ActionCode.of).toArray).run? rotations length
        ((actions.take n).map ActionCode.of).toArray = some p
      ∧ p.Follows (State.initial.after rotations length (actions.take n))
          (walk rotations length (actions.take n)) 0 0 := by
  have hsplit (f : Option Action → Nat) :
      ((actions.take n).map f).sum ≤ (actions.map f).sum := by
    have hsum := congrArg (fun u => (u.map f).sum) (List.take_append_drop n actions)
    simp only [List.map_append, List.sum_append] at hsum
    omega
  have hroom : (plotterFor (actions.map ActionCode.of).toArray : Plotter α).Follows .initial []
      ((actions.take n).map rowsFor).sum ((actions.take n).map placesFor).sum :=
    (follows_plotterFor actions).weaken (hsplit rowsFor) (hsplit placesFor)
  exact hroom.run rotations length

theorem items_interpret (r : Resolver) (pen : Pen) (ids : Array Int) :
    (interpret r pen ids).items
      = walk (.ofDegrees pen.rotationAngle) pen.segmentLength (ids.toList.map r.action?) := by
  rw [interpret_eq_walk]
  exact (represents_ofItems _).items_eq

theorem cursor_eq_lastPoint (r : Resolver) (pen : Pen) (ids : Array Int) (n : Nat) :
    ∃ p, (plotterFor (codes r ids)).run? (.ofDegrees pen.rotationAngle) pen.segmentLength
        ((codes r ids).take n) = some p
      ∧ p.cursor.position = (Trace.ofRows p.output).lastPoint := by
  obtain ⟨p, hrun, hfollows⟩ := exists_follows_take (.ofDegrees pen.rotationAngle)
    pen.segmentLength (ids.toList.map r.action?) n
  refine ⟨p, ?_, ?_⟩
  · rw [codes_eq_toArray]
    simpa using hrun
  · obtain ⟨hrooted, -⟩ := rooted_initial.run (.ofDegrees pen.rotationAngle) pen.segmentLength
      ((ids.toList.map r.action?).take n)
    rw [hfollows.output_eq, Trace.ofRows_of, hfollows.cursor]
    exact hrooted.cursor

theorem breaks_resume_on_drawn_points (r : Resolver) (pen : Pen) (ids : Array Int) :
    (∀ before after, (interpret r pen ids).items = before ++ .lineBreak :: after →
      ∃ p rest, after = .vertex p :: rest ∧ (p = .origin ∨ .vertex p ∈ before))
    ∧ ∀ n, ∃ p, (plotterFor (codes r ids)).run? (.ofDegrees pen.rotationAngle) pen.segmentLength
          ((codes r ids).take n) = some p
        ∧ p.cursor.position = (Trace.ofRows p.output).lastPoint := by
  refine ⟨?_, cursor_eq_lastPoint r pen ids⟩
  obtain ⟨-, hresumes⟩ := rooted_initial.run (.ofDegrees pen.rotationAngle) pen.segmentLength
    (ids.toList.map r.action?)
  rw [items_interpret]
  exact hresumes

def twig : Dictionary Int Action :=
  [(0, .forward), (1, .push), (2, .pop), (3, .rotate .zPos)]

theorem breaks_resume_on_drawn_points_twig :
    (interpret (.mapping twig) ⟨1, 90⟩ #[0, 1, 0, 2, 0]).items
        = [.vertex ⟨0, 1, 0⟩, .vertex ⟨0, 2, 0⟩] ++ .lineBreak
          :: [.vertex ⟨0, 1, 0⟩, .vertex ⟨0, 2, 0⟩]
      ∧ (∃ (p : Point Float) (rest : List (TraceItem Float)),
          [.vertex ⟨0, 1, 0⟩, .vertex ⟨0, 2, 0⟩] = .vertex p :: rest
            ∧ (p = .origin ∨ .vertex p ∈ [TraceItem.vertex ⟨0, 1, 0⟩, .vertex ⟨0, 2, 0⟩]))
      ∧ ∃ p, (plotterFor (codes (.mapping twig) #[0, 1, 0, 2, 0])).run? (.ofDegrees 90) 1
            ((codes (.mapping twig) #[0, 1, 0, 2, 0]).take 3) = some p
          ∧ p.cursor.position = (Trace.ofRows p.output).lastPoint := by
  obtain ⟨hbreaks, hcursor⟩ :=
    breaks_resume_on_drawn_points (.mapping twig) ⟨1, 90⟩ #[0, 1, 0, 2, 0]
  have hitems : (interpret (.mapping twig) ⟨1, 90⟩ #[0, 1, 0, 2, 0]).items
      = [.vertex ⟨0, 1, 0⟩, .vertex ⟨0, 2, 0⟩] ++ .lineBreak
        :: [.vertex ⟨0, 1, 0⟩, .vertex ⟨0, 2, 0⟩] := by
    rw [items_interpret]
    decide
  exact ⟨hitems, hbreaks _ _ hitems, hcursor 3⟩

end Turtle

end LSystem
