import LSystem.Proofs.Trace.Runs
import LSystem.Trace.Compact

namespace LSystem

variable {α β : Type}

theorem Value.fitsWord_iff (n : Int) :
    fitsWord n = true ↔ -(halfWord : Int) ≤ n ∧ n < (halfWord : Int) := by
  simp [fitsWord]

def Point.map (f : α → β) (p : Point α) : Point β :=
  ⟨f p.x, f p.y, f p.z⟩

def Point.toList (p : Point α) : List α :=
  [p.x, p.y, p.z]

def TraceItem.map (f : α → β) : TraceItem α → TraceItem β
  | .vertex p => .vertex (p.map f)
  | .lineBreak => .lineBreak

namespace Trace

def map (f : α → β) (t : Trace α) : Trace β where
  coords := t.coords.map (Point.map f)
  offsets := t.offsets

def rowOf (p : Point Float) : Value :=
  .list (p.toList.map .real)

variable {t : Trace α} {coords : Array (Point α)} {offsets : Array Int}

section Check

theorem wordDifference_of_fitsWord {a b : Int} (h : Value.fitsWord (a - b) = true) :
    wordDifference a b = a - b := by
  obtain ⟨hlow, hhigh⟩ := (Value.fitsWord_iff _).mp h
  apply Int.bmod_eq_of_le
  · omega
  · omega

theorem ofParts_eq_ok_iff :
    ofParts coords offsets = .ok t ↔
      2 ≤ offsets.size ∧ offsets[0]? = some 0 ∧ offsets.back? = some (coords.size : Int) ∧
        (∀ e ∈ neighbours offsets.toList, 0 ≤ wordDifference e.2 e.1) ∧ t = ⟨coords, offsets⟩ := by
  have hrise : (∀ e ∈ neighbours offsets.toList, 0 ≤ wordDifference e.2 e.1) ↔
      ¬ ((neighbours offsets.toList).any fun e => wordDifference e.2 e.1 < 0) = true := by
    simp
  rw [hrise, ofParts]
  split
  · next hsize =>
    have htwo : ¬ 2 ≤ offsets.size := by omega
    simp [htwo]
  · next hsize =>
    have htwo : 2 ≤ offsets.size := by omega
    split
    · next hfirst => simp [hfirst]
    · next hfirst =>
      split
      · next hlast => simp [hlast]
      · next hlast =>
        split
        · next hfall => simp [hfall]
        · next hfall =>
          have hzero := Decidable.not_not.mp hfirst
          have hend := Decidable.not_not.mp hlast
          simp only [htwo, hzero, hend, hfall, Bool.false_eq_true, not_false_eq_true, true_and,
            Except.ok.injEq]
          exact eq_comm

theorem contiguous_of_ofParts (h : ofParts coords offsets = .ok t)
    (hfits : ∀ e ∈ t.bounds, Value.fitsWord (e.2 - e.1) = true) : t.Contiguous := by
  obtain ⟨htwo, hfirst, hlast, hrise, rfl⟩ := ofParts_eq_ok_iff.mp h
  refine ⟨htwo, hfirst, hlast, ?_⟩
  intro e he
  have hdifference := hrise e he
  rw [wordDifference_of_fitsWord (hfits e he)] at hdifference
  omega

theorem Contiguous.fitsWord_sub (h : t.Contiguous) (hsize : t.coords.size < Value.halfWord) :
    ∀ e ∈ t.bounds, Value.fitsWord (e.2 - e.1) = true := by
  intro e he
  obtain ⟨hfrom, hle, hto⟩ := h.le_of_mem_bounds e he
  rw [Value.fitsWord_iff]
  omega

theorem Contiguous.ofParts_eq (h : t.Contiguous) (hsize : t.coords.size < Value.halfWord) :
    ofParts t.coords t.offsets = .ok t := by
  refine ofParts_eq_ok_iff.mpr ⟨h.two_le, h.first, h.last, ?_, rfl⟩
  intro e he
  have hle := h.ascending e he
  rw [wordDifference_of_fitsWord (h.fitsWord_sub hsize e he)]
  omega

theorem size_lt_of_ofParts (h : ofParts coords offsets = .ok t)
    (hwords : ∀ o ∈ offsets, Value.fitsWord o = true) : t.coords.size < Value.halfWord := by
  obtain ⟨-, -, hlast, -, rfl⟩ := ofParts_eq_ok_iff.mp h
  obtain ⟨-, hlt⟩ := (Value.fitsWord_iff _).mp (hwords _ (Array.mem_of_back? hlast))
  exact Int.ofNat_lt.mp hlt

theorem contiguous_iff_fitsWord (h : ofParts coords offsets = .ok t)
    (hwords : ∀ o ∈ offsets, Value.fitsWord o = true) :
    t.Contiguous ↔ ∀ e ∈ t.bounds, Value.fitsWord (e.2 - e.1) = true :=
  ⟨fun hcontiguous => hcontiguous.fitsWord_sub (size_lt_of_ofParts h hwords),
    contiguous_of_ofParts h⟩

end Check

section Numbers

theorem foldl_pushItem_map (f : α → β) (items : List (TraceItem α)) (t : Trace α) :
    (items.map (TraceItem.map f)).foldl pushItem (t.map f) = (items.foldl pushItem t).map f := by
  induction items generalizing t with
  | nil => rfl
  | cons item items ih =>
    have hitem : (t.map f).pushItem (item.map f) = (t.pushItem item).map f := by
      cases item <;> simp [pushItem, map, TraceItem.map]
    rw [List.map_cons, List.foldl_cons, List.foldl_cons, hitem, ih]

theorem ofItems_map (f : α → β) (items : List (TraceItem α)) :
    ofItems (items.map (TraceItem.map f)) = (ofItems items).map f := by
  have hfold := foldl_pushItem_map f items ⟨#[], #[0]⟩
  simp only [map, Array.map_empty] at hfold
  simp [ofItems, hfold, close, map]

theorem sides?_rowOf (p : Point Float) : (rowOf p).sides? = some [3] := by
  simp [rowOf, Point.toList, Value.sides?, Value.commonSides?]

theorem commonSides?_map_rowOf (p : Point Float) (ps : List (Point Float)) :
    Value.commonSides? (rowOf p :: ps.map rowOf) = some [3] := by
  induction ps generalizing p with
  | nil => exact sides?_rowOf p
  | cons q ps ih => simp [Value.commonSides?, sides?_rowOf, ih q]

theorem cellsOf_map_rowOf (ps : List (Point Float)) :
    Value.cellsOf (ps.map rowOf) = (ps.flatMap Point.toList).map .real := by
  induction ps with
  | nil => simp [Value.cellsOf]
  | cons p ps ih =>
    simp [Value.cellsOf, Value.cells, rowOf, Point.toList, ih]

theorem mapM_coordinate_real (xs : List Float) :
    (xs.map Value.real).mapM coordinate = .ok xs := by
  induction xs with
  | nil => rfl
  | cons x xs ih =>
    rw [List.map_cons, List.mapM_cons, ih]
    rfl

theorem points_flatMap_toList (ps : List (Point Float)) (read : Array (Point Float)) :
    points (ps.flatMap Point.toList) read = read ++ ps.toArray := by
  induction ps generalizing read with
  | nil => simp [points]
  | cons p ps ih => simp [Point.toList, points, ih]

theorem ofValue_of_cells {f : Value → Except Mismatch β} {v : Value} {sides : List Nat}
    {cells : List β} (hsides : v.sides? = some sides) (hfew : sides.length ≤ Table.maxSides)
    (hcells : v.cells.mapM f = .ok cells) : Table.ofValue f v = .ok ⟨sides, cells⟩ := by
  simp only [Table.ofValue, hsides, hcells, if_neg (Nat.not_lt.mpr hfew)]
  rfl

theorem exists_ofValue_rows (ps : List (Point Float)) :
    ∃ sides, Table.ofValue coordinate (.list (ps.map rowOf))
      = .ok ⟨sides, ps.flatMap Point.toList⟩ := by
  have hcells : (Value.list (ps.map rowOf)).cells.mapM coordinate
      = .ok (ps.flatMap Point.toList) := by
    rw [Value.cells, cellsOf_map_rowOf, mapM_coordinate_real]
  cases ps with
  | nil =>
    have hsides : (Value.list []).sides? = some [0] := by simp [Value.sides?, Value.commonSides?]
    exact ⟨_, ofValue_of_cells hsides (by decide) hcells⟩
  | cons p ps =>
    have hsides : (Value.list ((p :: ps).map rowOf)).sides? = some [ps.length + 1, 3] := by
      simp [Value.sides?, commonSides?_map_rowOf]
    exact ⟨_, ofValue_of_cells hsides (Nat.le_of_ble_eq_true rfl) hcells⟩

theorem ofItemValues_real (items : List (TraceItem Float)) :
    ofItemValues (items.map (TraceItem.map Value.real))
      = ofParts (ofItems items).coords (ofItems items).offsets := by
  obtain ⟨sides, hnumbers⟩ := exists_ofValue_rows (ofItems items).coords.toList
  have hrows : ((ofItems items).map Value.real).coords.toList.map
      (fun p => Value.list [p.x, p.y, p.z]) = (ofItems items).coords.toList.map rowOf := by
    rw [map, Array.toList_map, List.map_map]
    rfl
  have hpoints : points ((ofItems items).coords.toList.flatMap Point.toList) #[]
      = (ofItems items).coords := by
    rw [points_flatMap_toList, Array.empty_append]
  rw [ofItemValues, ofItems_map, hrows, hnumbers]
  exact congrArg (fun coords => ofParts coords (ofItems items).offsets) hpoints

theorem ofItemValues_of_lt (items : List (TraceItem Float))
    (h : items.countP TraceItem.isVertex < Value.halfWord) :
    ofItemValues (items.map (TraceItem.map Value.real)) = .ok (ofItems items) := by
  rw [← pointCount_ofItems] at h
  rw [ofItemValues_real]
  exact (contiguous_ofItems items).ofParts_eq h

theorem Contiguous.ofItemValues_items {t : Trace Float} (h : t.Contiguous)
    (hsize : t.coords.size < Value.halfWord) :
    ofItemValues (t.items.map (TraceItem.map Value.real)) = .ok t := by
  have hrepresents := h.represents
  have hcount : t.items.countP TraceItem.isVertex < Value.halfWord := by
    rw [← hrepresents.pointCount_eq]
    exact hsize
  rw [ofItemValues_of_lt t.items hcount, hrepresents.ofItems_eq]

theorem ofItemValues_eq_ok_iff {items : List (TraceItem Float)} {t : Trace Float} :
    ofItemValues (items.map (TraceItem.map Value.real)) = .ok t ↔
      ofParts t.coords t.offsets = .ok t ∧ ofItems items = t := by
  rw [ofItemValues_real]
  constructor
  · intro h
    obtain ⟨-, -, -, -, rfl⟩ := ofParts_eq_ok_iff.mp h
    exact ⟨h, rfl⟩
  · rintro ⟨h, rfl⟩
    exact h

end Numbers

theorem accepted_traces_are_item_lists (items : List (TraceItem Float))
    (coords : Array (Point Float)) (offsets : Array Int)
    (hsize : items.countP TraceItem.isVertex < Value.halfWord)
    (hwords : ∀ o ∈ offsets, Value.fitsWord o = true) :
    (ofItemValues (items.map (TraceItem.map Value.real)) = .ok (ofItems items) ∧
      (ofItems items).Represents items) ∧
    ((∃ given : List (TraceItem Float),
        ofItemValues (given.map (TraceItem.map Value.real)) = .ok ⟨coords, offsets⟩) ↔
      ofParts coords offsets = .ok ⟨coords, offsets⟩ ∧
        ∀ e ∈ neighbours offsets.toList, Value.fitsWord (e.2 - e.1) = true) ∧
    ∀ t, ofParts coords offsets = .ok t →
      ((ofItemValues (t.items.map (TraceItem.map Value.real)) = .ok t ∧ t.Represents t.items) ↔
        ∀ e ∈ t.bounds, Value.fitsWord (e.2 - e.1) = true) := by
  refine ⟨⟨ofItemValues_of_lt items hsize, represents_ofItems items⟩, ?_, ?_⟩
  · constructor
    · rintro ⟨given, hgiven⟩
      obtain ⟨haccepted, htrace⟩ := ofItemValues_eq_ok_iff.mp hgiven
      have hcontiguous := exists_ofItems_eq_iff.mp ⟨given, htrace⟩
      exact ⟨haccepted, (contiguous_iff_fitsWord haccepted hwords).mp hcontiguous⟩
    · rintro ⟨haccepted, hfits⟩
      have hcontiguous := (contiguous_iff_fitsWord haccepted hwords).mpr hfits
      exact ⟨_, hcontiguous.ofItemValues_items (size_lt_of_ofParts haccepted hwords)⟩
  · intro t haccepted
    -- what is asked of the differences is that the runs follow on one another
    rw [← contiguous_iff_fitsWord haccepted hwords]
    constructor
    · rintro ⟨-, hrepresents⟩
      exact exists_ofItems_eq_iff.mp ⟨t.items, hrepresents.ofItems_eq⟩
    · intro hcontiguous
      have hfew := size_lt_of_ofParts haccepted hwords
      exact ⟨hcontiguous.ofItemValues_items hfew, hcontiguous.represents⟩

def islet : List (TraceItem Float) :=
  [.lineBreak, .vertex ⟨1, 2, 3⟩, .lineBreak, .lineBreak]

theorem accepted_traces_are_item_lists_islet :
    islet.countP TraceItem.isVertex < Value.halfWord ∧
      (∀ o ∈ (ofItems islet).offsets, Value.fitsWord o = true) ∧
      ofParts (ofItems islet).coords (ofItems islet).offsets = .ok (ofItems islet) ∧
      ofItemValues (islet.map (TraceItem.map Value.real)) = .ok (ofItems islet) ∧
      (ofItems islet).Represents islet ∧
      (ofItems islet).Represents (ofItems islet).items := by
  have hsize : islet.countP TraceItem.isVertex < Value.halfWord := by decide
  have hwords : ∀ o ∈ (ofItems islet).offsets, Value.fitsWord o = true := by decide
  have haccepted : ofParts (ofItems islet).coords (ofItems islet).offsets = .ok (ofItems islet) :=
    rfl
  have hfits : ∀ e ∈ (ofItems islet).bounds, Value.fitsWord (e.2 - e.1) = true := by decide
  obtain ⟨⟨hmade, hrepresents⟩, -, hback⟩ :=
    accepted_traces_are_item_lists islet (ofItems islet).coords _ hsize hwords
  exact ⟨hsize, hwords, haccepted, hmade, hrepresents, ((hback _ haccepted).mpr hfits).2⟩

def fallen : Trace Float :=
  ⟨#[⟨1, 2, 3⟩], #[0, 9223372036854775807, -2, 1]⟩

theorem accepts_fallen_offsets :
    (∀ o ∈ fallen.offsets, Value.fitsWord o = true) ∧
      ofParts fallen.coords fallen.offsets = .ok fallen ∧
      (¬ ∃ items : List (TraceItem Float),
        ofItemValues (items.map (TraceItem.map Value.real)) = .ok fallen) ∧
      ofItems fallen.items ≠ fallen ∧ fallen.vertexCount ≠ fallen.items.length := by
  have hfall : ¬ fallen.Contiguous := by
    intro h
    -- the difference of these two is taken for the greatest word
    exact absurd (h.ascending (9223372036854775807, -2) (by decide)) (by decide)
  refine ⟨by decide, rfl, ?_, ?_, by decide⟩
  · rintro ⟨items, hitems⟩
    exact hfall (exists_ofItems_eq_iff.mp ⟨items, (ofItemValues_eq_ok_iff.mp hitems).2⟩)
  · intro h
    exact hfall (exists_ofItems_eq_iff.mp ⟨fallen.items, h⟩)

end Trace

end LSystem
