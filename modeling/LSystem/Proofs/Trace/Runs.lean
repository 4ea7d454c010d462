import LSystem.Trace.Basic

namespace LSystem

variable {α : Type}

namespace TraceItem

def isVertex : TraceItem α → Bool
  | .vertex _ => true
  | .lineBreak => false

def isBreak : TraceItem α → Bool
  | .vertex _ => false
  | .lineBreak => true

def point? : TraceItem α → Option (Point α)
  | .vertex p => some p
  | .lineBreak => none

end TraceItem

namespace Trace

def firstRun : List (TraceItem α) → List (Point α)
  | [] => []
  | .vertex p :: items => p :: firstRun items
  | .lineBreak :: _ => []

def laterRuns : List (TraceItem α) → List (List (Point α))
  | [] => []
  | .vertex _ :: items => laterRuns items
  | .lineBreak :: items => firstRun items :: laterRuns items

def vertices (items : List (TraceItem α)) : List (Point α) :=
  items.filterMap TraceItem.point?

def breaksFrom (n : Nat) : List (TraceItem α) → List Int
  | [] => []
  | .vertex _ :: items => breaksFrom (n + 1) items
  | .lineBreak :: items => (n : Int) :: breaksFrom n items

def joinRuns (first : List (Point α)) (later : List (List (Point α))) : List (TraceItem α) :=
  first.map .vertex ++ later.flatMap fun run => .lineBreak :: run.map .vertex

def endsFrom (n : Nat) : List (List (Point α)) → List Int
  | [] => []
  | run :: rest => ((n + run.length : Nat) : Int) :: endsFrom (n + run.length) rest

def layOut (t : Trace α) (runs : List (List (Point α))) : Trace α where
  coords := t.coords ++ runs.flatten.toArray
  offsets := t.offsets ++ (endsFrom t.coords.size runs).toArray

def ofRuns (runs : List (List (Point α))) : Trace α :=
  layOut ⟨#[], #[0]⟩ runs

structure Contiguous (t : Trace α) : Prop where
  two_le : 2 ≤ t.offsets.size
  first : t.offsets[0]? = some 0
  last : t.offsets.back? = some (t.coords.size : Int)
  ascending : ∀ e ∈ t.bounds, e.1 ≤ e.2

structure Represents (t : Trace α) (items : List (TraceItem α)) : Prop where
  ofItems_eq : ofItems items = t
  items_eq : t.items = items
  pointCount_eq : t.pointCount = items.countP TraceItem.isVertex
  breakCount_eq : t.breakCount = items.countP TraceItem.isBreak
  vertexCount_eq : t.vertexCount = items.length
  flatten_runs : t.runs.flatten = t.coords.toList

variable {t : Trace α} {first : List (Point α)} {later : List (List (Point α))}

theorem ext_toList {s : Trace α} (hcoords : s.coords.toList = t.coords.toList)
    (hoffsets : s.offsets.toList = t.offsets.toList) : s = t := by
  obtain ⟨⟨coords⟩, ⟨offsets⟩⟩ := s
  obtain ⟨⟨_⟩, ⟨_⟩⟩ := t
  cases hcoords
  cases hoffsets
  rfl

section Items

theorem joinRuns_nil_cons (run : List (Point α)) (rest : List (List (Point α))) :
    joinRuns [] (run :: rest) = .lineBreak :: joinRuns run rest := by
  simp [joinRuns]

theorem joinRuns_firstRun_laterRuns (items : List (TraceItem α)) :
    joinRuns (firstRun items) (laterRuns items) = items := by
  induction items with
  | nil => rfl
  | cons item items ih =>
    cases item with
    | vertex p => exact congrArg (TraceItem.vertex p :: ·) ih
    | lineBreak => exact (joinRuns_nil_cons _ _).trans (congrArg (TraceItem.lineBreak :: ·) ih)

theorem firstRun_joinRuns (first : List (Point α)) (later : List (List (Point α))) :
    firstRun (joinRuns first later) = first := by
  induction first with
  | nil =>
    cases later with
    | nil => rfl
    | cons run rest => rw [joinRuns_nil_cons, firstRun]
  | cons p first ih => exact congrArg (p :: ·) ih

theorem laterRuns_joinRuns (first : List (Point α)) (later : List (List (Point α))) :
    laterRuns (joinRuns first later) = later := by
  induction later generalizing first with
  | nil =>
    induction first with
    | nil => rfl
    | cons p first ih => exact ih
  | cons run rest ih =>
    induction first with
    | nil => rw [joinRuns_nil_cons, laterRuns, firstRun_joinRuns, ih run]
    | cons p first ihf => exact ihf

theorem exists_of_mem_laterRuns {items : List (TraceItem α)} {run : List (Point α)}
    (h : run ∈ laterRuns items) :
    ∃ before after, items = before ++ .lineBreak :: after ∧ run = firstRun after := by
  induction items with
  | nil => cases h
  | cons item items ih =>
    cases item with
    | vertex p =>
      obtain ⟨before, after, rfl, hrun⟩ := ih h
      exact ⟨.vertex p :: before, after, rfl, hrun⟩
    | lineBreak =>
      rcases List.mem_cons.mp h with hrun | h
      · exact ⟨[], items, rfl, hrun⟩
      · obtain ⟨before, after, rfl, hrun⟩ := ih h
        exact ⟨.lineBreak :: before, after, rfl, hrun⟩

theorem items_eq_joinRuns (h : t.runs = first :: later) : t.items = joinRuns first later := by
  rw [items, h, joinRuns]

@[simp] theorem vertices_cons_vertex (p : Point α) (items : List (TraceItem α)) :
    vertices (.vertex p :: items) = p :: vertices items := rfl

@[simp] theorem vertices_cons_lineBreak (items : List (TraceItem α)) :
    vertices (.lineBreak :: items) = vertices items := rfl

theorem length_vertices (items : List (TraceItem α)) :
    (vertices items).length = items.countP TraceItem.isVertex := by
  induction items with
  | nil => rfl
  | cons item items ih => cases item <;> simp [TraceItem.isVertex, List.countP_cons, ih]

theorem bounds_of_mem_breaksFrom {items : List (TraceItem α)} {n : Nat} {o : Int}
    (h : o ∈ breaksFrom n items) :
    (n : Int) ≤ o ∧ o ≤ ((n + (vertices items).length : Nat) : Int) := by
  induction items generalizing n with
  | nil => cases h
  | cons item items ih =>
    cases item with
    | vertex p =>
      obtain ⟨hfrom, hto⟩ := ih h
      rw [vertices_cons_vertex, List.length_cons]
      omega
    | lineBreak =>
      rcases List.mem_cons.mp h with rfl | h
      · omega
      · exact ih h

theorem pairwise_breaksFrom (items : List (TraceItem α)) (n : Nat) :
    (breaksFrom n items).Pairwise (· ≤ ·) := by
  induction items generalizing n with
  | nil => exact .nil
  | cons item items ih =>
    cases item with
    | vertex p => exact ih (n + 1)
    | lineBreak => exact .cons (fun o ho => (bounds_of_mem_breaksFrom ho).1) (ih n)

end Items

section Layout

theorem close_eq_layOut (t : Trace α) : t.close = t.layOut [[]] := by
  simp [close, layOut, endsFrom]

theorem layOut_pushItem_vertex (t : Trace α) (p : Point α) (run : List (Point α))
    (rest : List (List (Point α))) :
    (t.pushItem (.vertex p)).layOut (run :: rest) = t.layOut ((p :: run) :: rest) := by
  have hend : t.coords.size + 1 + run.length = t.coords.size + (run.length + 1) := by omega
  simp [pushItem, layOut, endsFrom, hend]

theorem layOut_pushItem_lineBreak (t : Trace α) (runs : List (List (Point α))) :
    (t.pushItem .lineBreak).layOut runs = t.layOut ([] :: runs) := by
  simp [pushItem, layOut, endsFrom]

theorem close_foldl_pushItem (items : List (TraceItem α)) (t : Trace α) :
    (items.foldl pushItem t).close = t.layOut (firstRun items :: laterRuns items) := by
  induction items generalizing t with
  | nil => exact t.close_eq_layOut
  | cons item items ih =>
    rw [List.foldl_cons, ih]
    cases item with
    | vertex p => exact t.layOut_pushItem_vertex p _ _
    | lineBreak => exact t.layOut_pushItem_lineBreak _

theorem ofItems_eq_ofRuns (items : List (TraceItem α)) :
    ofItems items = ofRuns (firstRun items :: laterRuns items) :=
  close_foldl_pushItem items _

theorem ofItems_joinRuns (first : List (Point α)) (later : List (List (Point α))) :
    ofItems (joinRuns first later) = ofRuns (first :: later) := by
  rw [ofItems_eq_ofRuns, firstRun_joinRuns, laterRuns_joinRuns]

theorem coords_ofRuns (runs : List (List (Point α))) :
    (ofRuns runs).coords.toList = runs.flatten := by
  simp [ofRuns, layOut]

theorem offsets_ofRuns (runs : List (List (Point α))) :
    (ofRuns runs).offsets.toList = 0 :: endsFrom 0 runs := by
  simp [ofRuns, layOut]

end Layout

section Slices

theorem clampPlace_natCast {n i : Nat} (h : i ≤ n) : clampPlace n i = i := by
  have h0 : ¬ (i : Int) < 0 := Int.not_lt.mpr (Int.natCast_nonneg i)
  rw [clampPlace, if_neg h0, Int.toNat_natCast, Nat.min_eq_left h]

theorem slice_natCast (t : Trace α) {i j : Nat} (hij : i ≤ j) (hj : j ≤ t.coords.size) :
    t.slice i j = (t.coords.toList.drop i).take (j - i) := by
  simp only [slice, clampPlace_natCast (Nat.le_trans hij hj), clampPlace_natCast hj,
    Array.toList_extract, List.extract_eq_take_drop]

theorem map_slice_endsFrom (t : Trace α) (runs : List (List (Point α))) (n : Nat)
    (hn : n ≤ t.coords.size) (h : t.coords.toList.drop n = runs.flatten) :
    ((neighbours ((n : Int) :: endsFrom n runs)).map fun e => t.slice e.1 e.2) = runs := by
  induction runs generalizing n with
  | nil => rfl
  | cons run rest ih =>
    -- what is left of the vertices behind `n` begins with the first run
    rw [List.flatten_cons] at h
    have hlength : t.coords.size - n = run.length + rest.flatten.length := by
      simpa using congrArg List.length h
    have hslice : t.slice n ((n + run.length : Nat) : Int) = run := by
      rw [t.slice_natCast (Nat.le_add_right _ _) (by omega), h, Nat.add_sub_cancel_left,
        List.take_left]
    have hdrop : t.coords.toList.drop (n + run.length) = rest.flatten := by
      rw [← List.drop_drop, h, List.drop_left]
    have hrest := ih (n + run.length) (by omega) hdrop
    rw [endsFrom, neighbours, List.map_cons, hslice, hrest]

theorem runs_ofRuns (runs : List (List (Point α))) : (ofRuns runs).runs = runs := by
  rw [Trace.runs, bounds, offsets_ofRuns]
  exact map_slice_endsFrom _ runs 0 (Nat.zero_le _) (coords_ofRuns runs)

theorem runs_ofItems (items : List (TraceItem α)) :
    (ofItems items).runs = firstRun items :: laterRuns items := by
  rw [ofItems_eq_ofRuns, runs_ofRuns]

theorem ends_of_slices (t : Trace α) (offsets : List Int) (n : Nat)
    (hascending : ∀ e ∈ neighbours ((n : Int) :: offsets), e.1 ≤ e.2)
    (hlast : ((n : Int) :: offsets).getLast? = some (t.coords.size : Int)) :
    n ≤ t.coords.size ∧
      ((neighbours ((n : Int) :: offsets)).map fun e => t.slice e.1 e.2).flatten
        = t.coords.toList.drop n ∧
      endsFrom n ((neighbours ((n : Int) :: offsets)).map fun e => t.slice e.1 e.2) = offsets := by
  induction offsets generalizing n with
  | nil =>
    have hn : (n : Int) = t.coords.size := Option.some.inj hlast
    obtain rfl := Int.ofNat.inj hn
    refine ⟨Nat.le_refl _, ?_, rfl⟩
    exact (List.drop_length (l := t.coords.toList)).symm
  | cons o offsets ih =>
    have hno : (n : Int) ≤ o := hascending (n, o) (List.mem_cons_self ..)
    obtain ⟨m, rfl⟩ := Int.eq_ofNat_of_zero_le (Int.le_trans (Int.natCast_nonneg n) hno)
    have hnm : n ≤ m := Int.ofNat_le.mp hno
    obtain ⟨hm, hflatten, hends⟩ := ih m
      (fun e he => hascending e (List.mem_cons_of_mem _ he))
      (by rwa [List.getLast?_cons_cons] at hlast)
    have hslice : t.slice n m = (t.coords.toList.drop n).take (m - n) := t.slice_natCast hnm hm
    have hlength : n + (t.slice n m).length = m := by
      rw [hslice, List.length_take, List.length_drop, Array.length_toList]
      omega
    refine ⟨Nat.le_trans hnm hm, ?_, ?_⟩
    · have hdrop : t.coords.toList.drop m = (t.coords.toList.drop n).drop (m - n) := by
        rw [List.drop_drop, Nat.add_sub_cancel' hnm]
      rw [neighbours, List.map_cons, List.flatten_cons, hflatten, hslice, hdrop,
        List.take_append_drop]
    · rw [neighbours, List.map_cons, endsFrom, hlength, hends]

end Slices

section Contiguity

theorem getLast?_endsFrom (runs : List (List (Point α))) (n : Nat) :
    ((n : Int) :: endsFrom n runs).getLast? = some ((n + runs.flatten.length : Nat) : Int) := by
  induction runs generalizing n with
  | nil => rfl
  | cons run rest ih =>
    rw [endsFrom, List.getLast?_cons_cons, ih, List.flatten_cons, List.length_append, Nat.add_assoc]

theorem neighbours_endsFrom (runs : List (List (Point α))) (n : Nat) :
    ∀ e ∈ neighbours ((n : Int) :: endsFrom n runs),
      (n : Int) ≤ e.1 ∧ e.1 ≤ e.2 ∧ e.2 ≤ ((n + runs.flatten.length : Nat) : Int) := by
  induction runs generalizing n with
  | nil =>
    intro e he
    cases he
  | cons run rest ih =>
    intro e he
    rw [List.flatten_cons, List.length_append]
    rcases List.mem_cons.mp he with rfl | he
    · refine ⟨Int.le_refl _, ?_, ?_⟩ <;> omega
    · obtain ⟨hfrom, hle, hto⟩ := ih (n + run.length) e he
      refine ⟨?_, hle, ?_⟩ <;> omega

theorem contiguous_ofRuns (first : List (Point α)) (later : List (List (Point α))) :
    (ofRuns (first :: later)).Contiguous where
  two_le := by simp [ofRuns, layOut, endsFrom]
  first := by simp [ofRuns, layOut]
  last := by
    rw [← Array.getLast?_toList, offsets_ofRuns, ← Array.length_toList, coords_ofRuns]
    exact (getLast?_endsFrom (first :: later) 0).trans (by rw [Nat.zero_add])
  ascending e he := by
    rw [bounds, offsets_ofRuns] at he
    exact (neighbours_endsFrom (first :: later) 0 e he).2.1

theorem Contiguous.exists_offsets (h : t.Contiguous) :
    ∃ o offsets, t.offsets.toList = ((0 : Nat) : Int) :: o :: offsets := by
  have hsize := h.two_le
  have hfirst := h.first
  rw [← Array.length_toList] at hsize
  rw [← Array.getElem?_toList] at hfirst
  match hlist : t.offsets.toList with
  | [] => simp [hlist] at hsize
  | [o] => simp [hlist] at hsize
  | o :: o' :: offsets =>
    obtain rfl : o = 0 := by simpa [hlist] using hfirst
    exact ⟨o', offsets, rfl⟩

theorem Contiguous.ofRuns_runs (h : t.Contiguous) : ofRuns t.runs = t := by
  obtain ⟨o, offsets, hoffsets⟩ := h.exists_offsets
  have hascending := h.ascending
  have hlast := h.last
  rw [bounds, hoffsets] at hascending
  rw [← Array.getLast?_toList, hoffsets] at hlast
  obtain ⟨-, hflatten, hends⟩ := t.ends_of_slices (o :: offsets) 0 hascending hlast
  rw [← hoffsets, ← bounds, ← Trace.runs] at hflatten hends
  apply ext_toList
  · exact (coords_ofRuns t.runs).trans hflatten
  · rw [offsets_ofRuns, hends, hoffsets]
    rfl

theorem Contiguous.exists_runs (h : t.Contiguous) :
    ∃ first later, t.runs = first :: later ∧ t = ofRuns (first :: later) := by
  obtain ⟨o, offsets, hoffsets⟩ := h.exists_offsets
  have hruns : t.runs
      = t.slice (0 : Nat) o :: (neighbours (o :: offsets)).map fun e => t.slice e.1 e.2 := by
    rw [Trace.runs, bounds, hoffsets, neighbours, List.map_cons]
  exact ⟨_, _, hruns, by rw [← hruns, h.ofRuns_runs]⟩

end Contiguity

section Counts

theorem size_coords_foldl_pushItem (items : List (TraceItem α)) (t : Trace α) :
    (items.foldl pushItem t).coords.size
      = t.coords.size + items.countP TraceItem.isVertex := by
  induction items generalizing t with
  | nil => rfl
  | cons item items ih =>
    rw [List.foldl_cons, ih, List.countP_cons]
    cases item with
    | vertex p =>
      simp only [pushItem, Array.size_push, TraceItem.isVertex, if_true]
      omega
    | lineBreak => simp [pushItem, TraceItem.isVertex]

theorem size_offsets_foldl_pushItem (items : List (TraceItem α)) (t : Trace α) :
    (items.foldl pushItem t).offsets.size
      = t.offsets.size + items.countP TraceItem.isBreak := by
  induction items generalizing t with
  | nil => rfl
  | cons item items ih =>
    rw [List.foldl_cons, ih, List.countP_cons]
    cases item with
    | vertex p => simp [pushItem, TraceItem.isBreak]
    | lineBreak =>
      simp only [pushItem, Array.size_push, TraceItem.isBreak, if_true]
      omega

theorem pointCount_ofItems (items : List (TraceItem α)) :
    (ofItems items).pointCount = items.countP TraceItem.isVertex := by
  have hsize := size_coords_foldl_pushItem items ⟨#[], #[0]⟩
  exact hsize.trans (Nat.zero_add _)

theorem breakCount_ofItems (items : List (TraceItem α)) :
    (ofItems items).breakCount = items.countP TraceItem.isBreak := by
  have hsize := size_offsets_foldl_pushItem items ⟨#[], #[0]⟩
  simp only [breakCount, ofItems, close, Array.size_push, hsize, List.size_toArray,
    List.length_singleton]
  omega

theorem vertexCount_ofItems (items : List (TraceItem α)) :
    (ofItems items).vertexCount = items.length := by
  have hbreak : TraceItem.isBreak = fun item : TraceItem α => decide ¬item.isVertex = true := by
    funext item
    cases item <;> rfl
  rw [vertexCount, pointCount_ofItems, breakCount_ofItems, hbreak,
    List.length_eq_countP_add_countP TraceItem.isVertex]

end Counts

section Compact

theorem toList_coords_foldl_pushItem (items : List (TraceItem α)) (t : Trace α) :
    (items.foldl pushItem t).coords.toList = t.coords.toList ++ vertices items := by
  induction items generalizing t with
  | nil => simp [vertices]
  | cons item items ih =>
    rw [List.foldl_cons, ih]
    cases item <;> simp [pushItem]

theorem toList_offsets_foldl_pushItem (items : List (TraceItem α)) (t : Trace α) :
    (items.foldl pushItem t).offsets.toList
      = t.offsets.toList ++ breaksFrom t.coords.size items := by
  induction items generalizing t with
  | nil => simp [breaksFrom]
  | cons item items ih =>
    rw [List.foldl_cons, ih]
    cases item <;> simp [pushItem, breaksFrom]

theorem toList_coords_ofItems (items : List (TraceItem α)) :
    (ofItems items).coords.toList = vertices items :=
  toList_coords_foldl_pushItem items ⟨#[], #[0]⟩

theorem toList_offsets_ofItems (items : List (TraceItem α)) :
    (ofItems items).offsets.toList
      = 0 :: breaksFrom 0 items ++ [((ofItems items).pointCount : Int)] := by
  have hoffsets := toList_offsets_foldl_pushItem items ⟨#[], #[0]⟩
  simp [ofItems, close, hoffsets, pointCount]

theorem pairwise_offsets_ofItems (items : List (TraceItem α)) :
    (ofItems items).offsets.toList.Pairwise (· ≤ ·) := by
  rw [toList_offsets_ofItems, pointCount_ofItems, ← length_vertices, List.cons_append]
  apply List.pairwise_cons.mpr
  constructor
  · intro o ho
    rcases List.mem_append.mp ho with ho | ho
    · exact (bounds_of_mem_breaksFrom ho).1
    · obtain rfl := List.mem_singleton.mp ho
      exact Int.natCast_nonneg _
  · apply List.pairwise_append.mpr
    refine ⟨pairwise_breaksFrom items 0, List.pairwise_singleton _ _, ?_⟩
    intro o ho last hlast
    obtain rfl := List.mem_singleton.mp hlast
    simpa using (bounds_of_mem_breaksFrom ho).2

end Compact

theorem represents_ofItems (items : List (TraceItem α)) : (ofItems items).Represents items where
  ofItems_eq := rfl
  items_eq := by rw [items_eq_joinRuns (runs_ofItems items), joinRuns_firstRun_laterRuns]
  pointCount_eq := pointCount_ofItems items
  breakCount_eq := breakCount_ofItems items
  vertexCount_eq := vertexCount_ofItems items
  flatten_runs := by rw [ofItems_eq_ofRuns, runs_ofRuns, coords_ofRuns]

theorem contiguous_ofItems (items : List (TraceItem α)) : (ofItems items).Contiguous := by
  rw [ofItems_eq_ofRuns]
  exact contiguous_ofRuns _ _

theorem Contiguous.represents (h : t.Contiguous) : t.Represents t.items := by
  obtain ⟨first, later, hruns, ht⟩ := h.exists_runs
  have hitems : ofItems t.items = t := by
    rw [items_eq_joinRuns hruns, ofItems_joinRuns, ← ht]
  have hrepresents := represents_ofItems t.items
  rwa [hitems] at hrepresents

theorem exists_ofItems_eq_iff : (∃ items, ofItems items = t) ↔ t.Contiguous := by
  constructor
  · rintro ⟨items, rfl⟩
    exact contiguous_ofItems items
  · intro h
    exact ⟨t.items, h.represents.ofItems_eq⟩

theorem Contiguous.le_of_mem_bounds (h : t.Contiguous) :
    ∀ e ∈ t.bounds, 0 ≤ e.1 ∧ e.1 ≤ e.2 ∧ e.2 ≤ (t.coords.size : Int) := by
  obtain ⟨first, later, -, rfl⟩ := h.exists_runs
  intro e he
  rw [bounds, offsets_ofRuns] at he
  have hbounds := neighbours_endsFrom (first :: later) 0 e he
  rwa [Nat.zero_add, ← coords_ofRuns, Array.length_toList] at hbounds

theorem Contiguous.toList_coords (h : t.Contiguous) : t.coords.toList = vertices t.items := by
  rw [← toList_coords_ofItems, h.represents.ofItems_eq]

theorem Contiguous.toList_offsets (h : t.Contiguous) :
    t.offsets.toList = 0 :: (breaksFrom 0 t.items ++ [(t.pointCount : Int)]) := by
  have hoffsets := toList_offsets_ofItems t.items
  rwa [h.represents.ofItems_eq] at hoffsets

theorem Contiguous.pairwise_offsets (h : t.Contiguous) : t.offsets.toList.Pairwise (· ≤ ·) := by
  have hsorted := pairwise_offsets_ofItems t.items
  rwa [h.represents.ofItems_eq] at hsorted

end Trace

end LSystem
