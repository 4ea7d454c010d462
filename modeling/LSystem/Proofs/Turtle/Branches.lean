import LSystem.Proofs.Turtle.Nesting
import LSystem.Proofs.Turtle.Resumption

namespace LSystem.Turtle

variable {α : Type} [Add α] [Mul α] (rotations : Rotations α) (length : α)

def State.onTop (s : State α) (kept : List (Cursor α)) : State α :=
  ⟨s.cursor, s.kept ++ kept⟩

section Walk

variable {s : State α} {a : Option Action} {actions : List (Option Action)} {d : Nat}

theorem State.step_onTop (h : deepen? s.kept.length a = some d) (kept : List (Cursor α)) :
    (s.onTop kept).step rotations length a
        = ((s.step rotations length a).1.onTop kept, (s.step rotations length a).2)
      ∧ (s.step rotations length a).1.kept.length = d := by
  obtain ⟨cursor, own⟩ := s
  cases a with
  | none => exact ⟨rfl, Option.some.inj h⟩
  | some a =>
    cases a with
    | pop =>
      cases own with
      | nil =>
        -- here the return would come back to a place below
        cases h
      | cons c own => exact ⟨rfl, Option.some.inj h⟩
    | _ => exact ⟨rfl, Option.some.inj h⟩

theorem State.draw_onTop (h : depthAfter? s.kept.length actions = some d)
    (kept : List (Cursor α)) :
    (s.onTop kept).draw rotations length actions = s.draw rotations length actions
      ∧ (s.onTop kept).after rotations length actions
          = (s.after rotations length actions).onTop kept
      ∧ (s.after rotations length actions).kept.length = d := by
  induction actions generalizing s with
  | nil => exact ⟨rfl, rfl, Option.some.inj h⟩
  | cons a actions ih =>
    rw [depthAfter?_cons] at h
    obtain ⟨m, hm, hrest⟩ := Option.bind_eq_some_iff.mp h
    obtain ⟨hstep, rfl⟩ := s.step_onTop rotations length hm kept
    obtain ⟨hdraw, hafter, hdepth⟩ := ih hrest
    refine ⟨?_, ?_, hdepth⟩
    · simp only [State.draw, hstep, hdraw]
    · change ((s.onTop kept).step rotations length a).1.after rotations length actions = _
      rw [hstep]
      exact hafter

theorem State.draw_of_balanced (c : Cursor α) {u : List (Option Action)} (h : Balanced u)
    (kept : List (Cursor α)) :
    (⟨c, kept⟩ : State α).draw rotations length u = (⟨c, []⟩ : State α).draw rotations length u
      ∧ ((⟨c, kept⟩ : State α).after rotations length u).kept = kept := by
  obtain ⟨hdraw, hafter, hdepth⟩ :=
    (⟨c, []⟩ : State α).draw_onTop rotations length (h.depthAfter?_eq 0) kept
  refine ⟨hdraw, (congrArg State.kept hafter).trans ?_⟩
  change (State.after rotations length ⟨c, []⟩ u).kept ++ kept = kept
  rw [List.eq_nil_of_length_eq_zero hdepth, List.nil_append]

theorem State.step_pop {c : Cursor α} {kept : List (Cursor α)} (h : s.kept = c :: kept) :
    s.step rotations length (some .pop) = (⟨c, kept⟩, [.lineBreak, .vertex c.position]) := by
  obtain ⟨d, _⟩ := s
  obtain rfl : _ = c :: kept := h
  rfl

def branch (u : List (Option Action)) : List (Option Action) :=
  some .push :: (u ++ [some .pop])

theorem State.after_branch (s : State α) {u : List (Option Action)} (h : Balanced u) :
    s.after rotations length (branch u) = s := by
  obtain ⟨c, kept⟩ := s
  obtain ⟨-, hkept⟩ := State.draw_of_balanced rotations length c h (c :: kept)
  calc (⟨c, kept⟩ : State α).after rotations length (branch u)
      = ((⟨c, c :: kept⟩ : State α).after rotations length u).after rotations length
          [some .pop] := (⟨c, c :: kept⟩ : State α).after_append rotations length u _
    _ = (((⟨c, c :: kept⟩ : State α).after rotations length u).step rotations length
          (some .pop)).1 := rfl
    _ = ⟨c, kept⟩ := by rw [State.step_pop rotations length hkept]

theorem State.draw_branch (s : State α) {u : List (Option Action)} (h : Balanced u) :
    s.draw rotations length (branch u)
      = s.draw rotations length u ++ [.lineBreak, .vertex s.cursor.position] := by
  obtain ⟨c, kept⟩ := s
  obtain ⟨hinside, hkept⟩ := State.draw_of_balanced rotations length c h (c :: kept)
  obtain ⟨houtside, -⟩ := State.draw_of_balanced rotations length c h kept
  calc (⟨c, kept⟩ : State α).draw rotations length (branch u)
      = (⟨c, c :: kept⟩ : State α).draw rotations length u
          ++ ((⟨c, c :: kept⟩ : State α).after rotations length u).draw rotations length
            [some .pop] := (⟨c, c :: kept⟩ : State α).draw_append rotations length u _
    _ = (⟨c, kept⟩ : State α).draw rotations length u ++ [.lineBreak, .vertex c.position] := by
        rw [hinside, houtside, State.draw, State.step_pop rotations length hkept]
        rfl

end Walk

def cursorAfter? (r : Resolver) (pen : Pen) (ids : Array Int) : Option (Cursor Float) :=
  ((plotterFor (codes r ids)).run? (.ofDegrees pen.rotationAngle) pen.segmentLength
    (codes r ids)).map Plotter.cursor

def added (r : Resolver) (pen : Pen) (before ids : Array Int) : List (TraceItem Float) :=
  (interpret r pen (before ++ ids)).items.drop (interpret r pen before).items.length

section Interpretation

variable (r : Resolver) (pen : Pen) (p : Array Int)

def stateAfter : State Float :=
  State.initial.after (.ofDegrees pen.rotationAngle) pen.segmentLength (p.toList.map r.action?)

theorem cursorAfter?_eq : cursorAfter? r pen p = some (stateAfter r pen p).cursor := by
  obtain ⟨q, hrun, hfollows⟩ := (follows_plotterFor (p.toList.map r.action?)).run
    (.ofDegrees pen.rotationAngle) pen.segmentLength
  rw [cursorAfter?, codes_eq_toArray, hrun, Option.map_some, hfollows.cursor]
  rfl

theorem items_interpret_append (ids : Array Int) :
    (interpret r pen (p ++ ids)).items = (interpret r pen p).items
      ++ (stateAfter r pen p).draw (.ofDegrees pen.rotationAngle) pen.segmentLength
        (ids.toList.map r.action?) := by
  rw [items_interpret, items_interpret, Array.toList_append, List.map_append, walk,
    State.draw_append]
  rfl

theorem added_eq_draw (ids : Array Int) :
    added r pen p ids = (stateAfter r pen p).draw (.ofDegrees pen.rotationAngle)
      pen.segmentLength (ids.toList.map r.action?) := by
  rw [added, items_interpret_append, List.drop_left]

section Branch

variable {r : Resolver} {x y : Int} {u : Array Int} (hx : r.action? x = some .push)
  (hy : r.action? y = some .pop) (hu : Balanced (u.toList.map r.action?))

include hx hy

theorem map_action?_branch (s : Array Int) :
    (#[x] ++ u ++ #[y] ++ s).toList.map r.action?
      = branch (u.toList.map r.action?) ++ s.toList.map r.action? := by
  simp [branch, hx, hy]

include hu

theorem stateAfter_branch : stateAfter r pen (p ++ (#[x] ++ u ++ #[y])) = stateAfter r pen p := by
  have hactions := map_action?_branch hx hy (u := u) #[]
  rw [Array.append_empty, List.map_nil, List.append_nil] at hactions
  rw [stateAfter, Array.toList_append, List.map_append, hactions, State.after_append]
  exact State.after_branch _ _ _ hu

theorem items_interpret_branch (s : Array Int) :
    (interpret r pen (p ++ (#[x] ++ u ++ #[y] ++ s))).items
      = (interpret r pen p).items
        ++ (added r pen p u ++ [.lineBreak, .vertex (stateAfter r pen p).cursor.position]
          ++ added r pen p s) := by
  rw [items_interpret_append, map_action?_branch hx hy, State.draw_append,
    State.after_branch _ _ _ hu, State.draw_branch _ _ _ hu, added_eq_draw, added_eq_draw]

end Branch

theorem balanced_branches_are_framed (s : Array Int) {x y : Int} (hx : r.action? x = some .push)
    (hy : r.action? y = some .pop) :
    ∃ c, cursorAfter? r pen p = some c
      ∧ (∀ v, (interpret r pen (p ++ v)).items = (interpret r pen p).items ++ added r pen p v)
      ∧ ∀ u : Array Int, Balanced (u.toList.map r.action?) →
          (interpret r pen (p ++ #[x] ++ u ++ #[y] ++ s)).items
              = (interpret r pen p).items ++ added r pen p u
                ++ [.lineBreak, .vertex c.position] ++ added r pen p s
            ∧ cursorAfter? r pen (p ++ #[x] ++ u ++ #[y]) = some c := by
  refine ⟨_, cursorAfter?_eq r pen p, ?_, ?_⟩
  · intro v
    rw [added_eq_draw, items_interpret_append]
  · intro u hu
    refine ⟨?_, ?_⟩
    · have hitems := items_interpret_branch pen p hx hy hu s
      simpa only [Array.append_assoc, List.append_assoc] using hitems
    · have hstate := stateAfter_branch pen p hx hy hu
      simp only [Array.append_assoc] at hstate ⊢
      rw [cursorAfter?_eq, hstate]

theorem balanced_branches_are_framed_twig :
    (Resolver.mapping twig).action? 1 = some .push
      ∧ (Resolver.mapping twig).action? 2 = some .pop
      ∧ Balanced (#[0, 1, 0, 2, 0].toList.map (Resolver.mapping twig).action?)
      ∧ cursorAfter? (.mapping twig) ⟨1, 90⟩ #[2, 0, 1, 0] = some ⟨⟨0, 2, 0⟩, .identity⟩
      ∧ (interpret (.mapping twig) ⟨1, 90⟩
            (#[2, 0, 1, 0] ++ #[1] ++ #[0, 1, 0, 2, 0] ++ #[2] ++ #[0, 2, 2, 0])).items
          = (interpret (.mapping twig) ⟨1, 90⟩ #[2, 0, 1, 0]).items
            ++ added (.mapping twig) ⟨1, 90⟩ #[2, 0, 1, 0] #[0, 1, 0, 2, 0]
            ++ [.lineBreak, .vertex ⟨0, 2, 0⟩]
            ++ added (.mapping twig) ⟨1, 90⟩ #[2, 0, 1, 0] #[0, 2, 2, 0]
      ∧ cursorAfter? (.mapping twig) ⟨1, 90⟩ (#[2, 0, 1, 0] ++ #[1] ++ #[0, 1, 0, 2, 0] ++ #[2])
          = some ⟨⟨0, 2, 0⟩, .identity⟩ := by
  have hbegin : (Resolver.mapping twig).action? 1 = some .push := rfl
  have hend : (Resolver.mapping twig).action? 2 = some .pop := rfl
  have hbalanced : Balanced (#[0, 1, 0, 2, 0].toList.map (Resolver.mapping twig).action?) := by
    decide
  have hcursor : cursorAfter? (.mapping twig) ⟨1, 90⟩ #[2, 0, 1, 0]
      = some ⟨⟨0, 2, 0⟩, .identity⟩ :=
    (cursorAfter?_eq _ _ _).trans rfl
  obtain ⟨c, hc, -, hitems⟩ := balanced_branches_are_framed (.mapping twig) ⟨1, 90⟩ #[2, 0, 1, 0]
    #[0, 2, 2, 0] hbegin hend
  obtain rfl := Option.some.inj (hc.symm.trans hcursor)
  exact ⟨hbegin, hend, hbalanced, hcursor, hitems _ hbalanced⟩

end Interpretation

end LSystem.Turtle
