import LSystem.Proofs.Turtle.Buffers
import LSystem.Turtle.Interpret

namespace LSystem

variable {α : Type}

theorem RowReader.read_of (r : RowReader α) (item : TraceItem α)
    (h : r.place = r.trace.coords.size + r.breaks) :
    (r.read (.of item)).trace = r.trace.pushItem item ∧
      (r.read (.of item)).place
        = (r.read (.of item)).trace.coords.size + (r.read (.of item)).breaks := by
  cases item with
  | vertex p =>
    refine ⟨rfl, ?_⟩
    simp only [PlotRow.of, read, h, Array.size_push]
    omega
  | lineBreak =>
    refine ⟨?_, ?_⟩
    · simp [PlotRow.of, read, Trace.pushItem, h]
    · simp only [PlotRow.of, read, h]
      omega

theorem Trace.ofRows_of (items : List (TraceItem α)) :
    ofRows (items.map PlotRow.of).toArray = ofItems items := by
  suffices h : ∀ r : RowReader α, r.place = r.trace.coords.size + r.breaks →
      ((items.map PlotRow.of).foldl RowReader.read r).trace = items.foldl pushItem r.trace by
    simp only [ofRows, ofItems, List.foldl_toArray]
    rw [h _ rfl]
  induction items with
  | nil => exact fun _ _ => rfl
  | cons item items ih =>
    intro r hr
    obtain ⟨htrace, hplace⟩ := r.read_of item hr
    rw [List.map_cons, List.foldl_cons, List.foldl_cons, ih _ hplace, htrace]

theorem Plotter.Follows.output_eq {p : Plotter α} {s : Turtle.State α} {items : List (TraceItem α)}
    {n k : Nat} (h : p.Follows s items n k) : p.output = (items.map PlotRow.of).toArray := by
  obtain ⟨free, -, hrows⟩ := h.rows
  apply Array.toList_inj.mp
  simp [output, hrows, h.written]

namespace Turtle

theorem rowsFor_eq (a : Option Action) :
    rowsFor a = 1 + if ActionCode.of a == ActionCode.pop then 1 else 0 := by
  rcases a with _ | (_ | _ | d | _ | _)
  case some.rotate => cases d <;> rfl
  all_goals rfl

theorem placesFor_eq (a : Option Action) :
    placesFor a = if ActionCode.of a == ActionCode.push then 1 else 0 := by
  rcases a with _ | (_ | _ | d | _ | _)
  case some.rotate => cases d <;> rfl
  all_goals rfl

theorem sum_rowsFor (actions : List (Option Action)) :
    (actions.map rowsFor).sum
      = actions.length + (actions.map ActionCode.of).count ActionCode.pop := by
  induction actions with
  | nil => rfl
  | cons a actions ih =>
    rw [List.map_cons, List.sum_cons, ih, rowsFor_eq, List.map_cons, List.count_cons,
      List.length_cons]
    omega

theorem sum_placesFor (actions : List (Option Action)) :
    (actions.map placesFor).sum = (actions.map ActionCode.of).count ActionCode.push := by
  induction actions with
  | nil => rfl
  | cons a actions ih =>
    rw [List.map_cons, List.sum_cons, ih, placesFor_eq, List.map_cons, List.count_cons,
      Nat.add_comm]

theorem follows_plotterFor [Zero α] [One α] (actions : List (Option Action)) :
    (plotterFor (actions.map ActionCode.of).toArray : Plotter α).Follows .initial []
      (actions.map rowsFor).sum (actions.map placesFor).sum := by
  refine (Plotter.follows_create _ _).weaken ?_ ?_
  · rw [sum_rowsFor]
    simp
  · rw [sum_placesFor, ← List.count_toArray]
    exact Nat.le_max_left _ 1

theorem plot_eq_walk [Zero α] [One α] [Add α] [Mul α] (rotations : Rotations α) (length : α)
    (actions : List (Option Action)) :
    plot rotations length (actions.map ActionCode.of).toArray
      = .ofItems (walk rotations length actions) := by
  obtain ⟨p, hrun, hfollows⟩ := (follows_plotterFor actions).run rotations length
  rw [plot, hrun]
  change Trace.ofRows p.output = _
  rw [hfollows.output_eq, Trace.ofRows_of]
  rfl

theorem mem_distinct (ids : Array Int) {id : Int} : id ∈ distinct ids ↔ id ∈ ids := by
  simp [distinct]

theorem getD_map_idxOf {xs : Array Int} {id : Int} (h : id ∈ xs) (f : Int → Int) (d : Int) :
    (xs.map f).getD (xs.idxOf id) d = f id := by
  have hlt : xs.idxOf id < xs.size := Array.idxOf_lt_length_of_mem h
  have hat : xs[xs.idxOf id] = id := by
    have hfound := Array.findIdx_getElem (p := (· == id)) (w := hlt)
    exact LawfulBEq.eq_of_beq hfound
  simp [Array.getD_eq_getD_getElem?, hlt, hat]

theorem codes_eq (r : Resolver) (ids : Array Int) :
    codes r ids = ids.map fun id => ActionCode.of (r.action? id) := by
  rw [codes, inverse, Array.map_map]
  refine Array.map_congr_left fun id hid => ?_
  exact getD_map_idxOf ((mem_distinct ids).mpr hid) _ _

theorem codes_eq_toArray (r : Resolver) (ids : Array Int) :
    codes r ids = ((ids.toList.map r.action?).map ActionCode.of).toArray := by
  rw [codes_eq]
  apply Array.toList_inj.mp
  simp

theorem interpret_eq_walk (r : Resolver) (pen : Pen) (ids : Array Int) :
    interpret r pen ids
      = .ofItems (walk (.ofDegrees pen.rotationAngle) pen.segmentLength
          (ids.toList.map r.action?)) := by
  rw [interpret]
  split
  · next hempty =>
    rw [Array.isEmpty_iff.mp hempty]
    rfl
  · rw [← plot_eq_walk, codes_eq_toArray]

theorem State.draw_filter_isSome [Add α] [Mul α] (rotations : Rotations α) (length : α)
    (s : State α) (actions : List (Option Action)) :
    s.draw rotations length (actions.filter Option.isSome) = s.draw rotations length actions := by
  induction actions generalizing s with
  | nil => rfl
  | cons a actions ih =>
    cases a with
    | none => exact ih s
    | some a =>
      have hrest := ih (s.step rotations length (some a)).1
      exact congrArg ((s.step rotations length (some a)).2 ++ ·) hrest

theorem interpret_congr {r r' : Resolver} (pen : Pen) {ids : Array Int}
    (h : ∀ id ∈ ids, r.action? id = r'.action? id) :
    interpret r pen ids = interpret r' pen ids := by
  have hmap : ids.toList.map r.action? = ids.toList.map r'.action? :=
    List.map_congr_left fun id hid => h id (Array.mem_toList_iff.mp hid)
  rw [interpret_eq_walk, interpret_eq_walk, hmap]

theorem interpret_filter_isSome (r : Resolver) (pen : Pen) (ids : Array Int) :
    interpret r pen (ids.filter fun id => (r.action? id).isSome) = interpret r pen ids := by
  have hfilter : (ids.filter fun id => (r.action? id).isSome).toList.map r.action?
      = (ids.toList.map r.action?).filter Option.isSome := by
    rw [Array.toList_filter, List.filter_map]
    rfl
  rw [interpret_eq_walk, interpret_eq_walk, hfilter, walk, State.draw_filter_isSome]
  rfl

theorem interpret_refines_walk (pen : Pen) (ids : Array Int) :
    (∀ r : Resolver,
      interpret r pen ids
          = .ofItems (walk (.ofDegrees pen.rotationAngle) pen.segmentLength
              (ids.toList.map r.action?))
        ∧ interpret r pen (ids.filter fun id => (r.action? id).isSome) = interpret r pen ids
        ∧ interpretIds r pen ids
          = if ids.all Value.fitsWord then
              .ok (.ofItems (walk (.ofDegrees pen.rotationAngle) pen.segmentLength
                (ids.toList.map r.action?)))
            else .error .outOfRange)
    ∧ ∀ actions : Dictionary Int Action,
      interpret (.callable fun id => .ok (actions.get? id)) pen ids
          = interpret (.mapping actions) pen ids
        ∧ interpret (.callable fun id =>
            match actions.get? id with
            | some a => .ok (some a)
            | none => .error {}) pen ids
          = interpret (.mapping actions) pen ids := by
  refine ⟨?_, ?_⟩
  · intro r
    refine ⟨interpret_eq_walk r pen ids, interpret_filter_isSome r pen ids, ?_⟩
    rw [interpretIds, interpret_eq_walk]
  · intro actions
    refine ⟨interpret_congr pen fun id _ => rfl, interpret_congr pen fun id _ => ?_⟩
    simp only [Resolver.action?]
    cases actions.get? id <;> rfl

end Turtle

end LSystem
