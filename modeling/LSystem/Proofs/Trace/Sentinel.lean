import LSystem.Proofs.Trace.Runs
import LSystem.Trace.Sentinel

namespace LSystem

variable {α : Type}

namespace Trace

section Search

/-- A place in a list of numbers with those up to a key before it and those beyond it behind. -/
structure Parts (l : List Int) (key : Int) (k : Nat) : Prop where
  within : k ≤ l.length
  below : ∀ x ∈ l.take k, x ≤ key
  above : ∀ x ∈ l.drop k, key < x

variable {l : List Int} {key : Int} {k : Nat}

theorem Parts.countP_eq (h : Parts l key k) : l.countP (· ≤ key) = k := by
  have hbelow : (l.take k).countP (· ≤ key) = (l.take k).length := by
    apply List.countP_eq_length.mpr
    intro x hx
    simpa using h.below x hx
  have habove : (l.drop k).countP (· ≤ key) = 0 := by
    apply List.countP_eq_zero.mpr
    intro x hx
    simpa using h.above x hx
  calc l.countP (· ≤ key)
      = (l.take k ++ l.drop k).countP (· ≤ key) := by rw [List.take_append_drop]
    _ = (l.take k).length := by rw [List.countP_append, hbelow, habove, Nat.add_zero]
    _ = k := List.length_take_of_le h.within

theorem le_of_mem_take_succ (hl : l.Pairwise (· ≤ ·)) (hk : k < l.length) :
    ∀ x ∈ l.take (k + 1), x ≤ l[k] := by
  intro x hx
  obtain ⟨i, hi, rfl⟩ := List.mem_take_iff_getElem.mp hx
  rcases Nat.lt_or_eq_of_le (show i ≤ k by omega) with hlt | rfl
  · exact List.pairwise_iff_getElem.mp hl i k (by omega) hk hlt
  · exact Int.le_refl _

theorem le_of_mem_drop (hl : l.Pairwise (· ≤ ·)) (hk : k < l.length) :
    ∀ x ∈ l.drop k, l[k] ≤ x := by
  intro x hx
  obtain ⟨i, hi, rfl⟩ := List.mem_drop_iff_getElem.mp hx
  cases i with
  | zero => exact Int.le_refl _
  | succ i => exact List.pairwise_iff_getElem.mp hl k (k + (i + 1)) hk (by omega) (by omega)

theorem parts_bisect {a : Array Int} (ha : a.toList.Pairwise (· ≤ ·)) (lo hi : Nat)
    (hle : lo ≤ hi) (hhi : hi ≤ a.toList.length) (hbelow : ∀ x ∈ a.toList.take lo, x ≤ key)
    (habove : ∀ x ∈ a.toList.drop hi, key < x) : Parts a.toList key (bisect a key lo hi) := by
  have hget : ∀ {i} (hi : i < a.toList.length), a.getD i 0 = a.toList[i] := by
    intro i hi
    rw [Array.length_toList] at hi
    simp [hi]
  fun_induction bisect a key lo hi with
  | case1 lo hi hlt mid hmid ih =>
    have hmidlt : mid < a.toList.length := by omega
    rw [hget hmidlt] at hmid
    refine ih (by omega) hhi ?_ habove
    intro x hx
    exact Int.le_trans (le_of_mem_take_succ ha hmidlt x hx) hmid
  | case2 lo hi hlt mid hmid ih =>
    have hmidlt : mid < a.toList.length := by omega
    rw [hget hmidlt] at hmid
    refine ih (by omega) (by omega) hbelow ?_
    intro x hx
    exact Int.lt_of_lt_of_le (Int.not_le.mp hmid) (le_of_mem_drop ha hmidlt x hx)
  | case3 lo hi hnot =>
    obtain rfl : lo = hi := by omega
    exact ⟨hhi, hbelow, habove⟩

end Search

section Shifts

theorem foldl_bisect {a : Array Int} (ha : a.toList.Pairwise (· ≤ ·)) (n : Nat) :
    ∃ k, k ≤ a.toList.length ∧ (∀ x ∈ a.toList.take k, x ≤ (n : Int)) ∧
      (List.range n).foldl (fun (s : Nat × List Nat) (p : Nat) =>
          (bisect a p s.1 a.size, bisect a p s.1 a.size :: s.2)) (0, [])
        = (k, ((List.range n).map fun (p : Nat) => a.toList.countP (· ≤ (p : Int))).reverse) := by
  induction n with
  | zero => exact ⟨0, Nat.zero_le _, by simp, rfl⟩
  | succ n ih =>
    obtain ⟨k, hk, hbelow, hfold⟩ := ih
    have hparts : Parts a.toList n (bisect a n k a.size) := by
      apply parts_bisect ha k a.size hk (Nat.le_refl _) hbelow
      intro x hx
      rw [← Array.length_toList, List.drop_length] at hx
      cases hx
    refine ⟨bisect a n k a.size, hparts.within, ?_, ?_⟩
    · intro x hx
      have hx := hparts.below x hx
      omega
    · rw [List.range_succ, List.foldl_append, hfold, List.map_append, List.reverse_append,
        List.map_singleton, hparts.countP_eq]
      rfl

theorem shifts_eq {t : Trace α} (h : t.innerOffsets.toList.Pairwise (· ≤ ·)) :
    t.shifts = (List.range t.pointCount).map fun (p : Nat) =>
      t.innerOffsets.toList.countP (· ≤ (p : Int)) := by
  obtain ⟨k, -, -, hfold⟩ := foldl_bisect h t.pointCount
  rw [shifts]
  dsimp only
  rw [hfold, List.reverse_reverse]

theorem innerOffsets_ofItems (items : List (TraceItem α)) :
    (ofItems items).innerOffsets.toList = breaksFrom 0 items := by
  have hoffsets := toList_offsets_ofItems items
  have hsize : (ofItems items).offsets.size = (breaksFrom 0 items).length + 2 := by
    rw [← Array.length_toList, hoffsets]
    simp
  rw [innerOffsets, Array.toList_extract, hoffsets, hsize]
  simp

end Shifts

section Rows

def placed (j : Nat) : List (TraceItem α) → List (Nat × Point α)
  | [] => []
  | .vertex p :: items => (j, p) :: placed (j + 1) items
  | .lineBreak :: items => placed (j + 1) items

def rowOr (mark : Point α) (item : TraceItem α) : Point α :=
  item.point?.getD mark

theorem countP_breaksFrom_eq_zero (items : List (TraceItem α)) (n : Nat) :
    (breaksFrom (n + 1) items).countP (· ≤ (n : Int)) = 0 := by
  apply List.countP_eq_zero.mpr
  intro o ho
  have hle := (bounds_of_mem_breaksFrom ho).1
  simp only [decide_eq_true_eq]
  omega

theorem zipIdx_shifts_eq_placed (items : List (TraceItem α)) (n b : Nat) :
    (((vertices items).zip ((List.range' n (vertices items).length).map fun (p : Nat) =>
        b + (breaksFrom n items).countP (· ≤ (p : Int)))).zipIdx n).map
          (fun e => (e.2 + e.1.2, e.1.1)) = placed (n + b) items := by
  induction items generalizing n b with
  | nil => rfl
  | cons item items ih =>
    cases item with
    | vertex p =>
      have ih := ih (n + 1) b
      rw [Nat.add_right_comm] at ih
      simp [List.range'_succ, breaksFrom, countP_breaksFrom_eq_zero, placed, ih]
    | lineBreak =>
      have hmap : (List.range' n (vertices items).length).map (fun (p : Nat) =>
            b + (breaksFrom n (.lineBreak :: items)).countP (· ≤ (p : Int)))
          = (List.range' n (vertices items).length).map (fun (p : Nat) =>
            b + 1 + (breaksFrom n items).countP (· ≤ (p : Int))) := by
        apply List.map_congr_left
        intro p hp
        have hle : (n : Int) ≤ p := Int.ofNat_le.mpr (List.mem_range'_1.mp hp).1
        simp only [breaksFrom, List.countP_cons, hle, decide_true, if_true]
        omega
      rw [vertices_cons_lineBreak, hmap]
      exact ih n (b + 1)

theorem foldl_setIfInBounds_placed (mark : Point α) (items : List (TraceItem α))
    (before : List (Point α)) :
    (placed before.length items).foldl (fun rows e => rows.setIfInBounds e.1 e.2)
        (before ++ List.replicate items.length mark).toArray
      = (before ++ items.map (rowOr mark)).toArray := by
  induction items generalizing before with
  | nil => simp [placed]
  | cons item items ih =>
    have ih := ih (before ++ [rowOr mark item])
    rw [List.length_append, List.length_singleton] at ih
    cases item with
    | vertex p => simpa [placed, rowOr, TraceItem.point?, List.replicate_succ] using ih
    | lineBreak => simpa [placed, rowOr, TraceItem.point?, List.replicate_succ] using ih

theorem rows_ofItems (items : List (TraceItem α)) (mark : Point α) :
    (ofItems items).rows mark = (items.map (rowOr mark)).toArray := by
  have hsorted : (ofItems items).innerOffsets.toList.Pairwise (· ≤ ·) := by
    rw [innerOffsets_ofItems]
    exact pairwise_breaksFrom items 0
  have hplaced := zipIdx_shifts_eq_placed items 0 0
  simp only [Nat.zero_add, ← List.range_eq_range'] at hplaced
  have hset := foldl_setIfInBounds_placed mark items []
  rw [List.length_nil, ← hplaced, List.foldl_map] at hset
  rw [rows, shifts_eq hsorted, toList_coords_ofItems, innerOffsets_ofItems, vertexCount_ofItems,
    pointCount_ofItems, ← length_vertices, ← List.toArray_replicate]
  exact hset

theorem splitOnP_map_rowOr {isMark : Point α → Bool} {mark : Point α} (hmark : isMark mark = true)
    (first : List (Point α)) (later : List (List (Point α)))
    (h : ∀ run ∈ first :: later, ∀ p ∈ run, isMark p = false) :
    ((joinRuns first later).map (rowOr mark)).splitOnP isMark = first :: later := by
  induction later generalizing first with
  | nil =>
    have hrow : (joinRuns first []).map (rowOr mark) = first := by
      simp [joinRuns, rowOr, TraceItem.point?, Function.comp_def]
    rw [hrow]
    exact List.splitOnP_eq_singleton (h first (List.mem_singleton_self first))
  | cons run rest ih =>
    have hrows : (joinRuns first (run :: rest)).map (rowOr mark)
        = first ++ mark :: (joinRuns run rest).map (rowOr mark) := by
      simp [joinRuns, rowOr, TraceItem.point?, Function.comp_def]
    have hfirst : first.splitOnP isMark = [first] :=
      List.splitOnP_eq_singleton (h first (List.mem_cons_self ..))
    have hrest := ih run fun r hr => h r (List.mem_cons_of_mem _ hr)
    rw [hrows, List.splitOnP_append_cons _ _ hmark, hfirst, hrest]
    rfl

end Rows

def isBreakRow (p : Point Float) : Bool :=
  p.x == -1 / 0 && p.y == -1 / 0 && p.z == -1 / 0

theorem isBreakRow_breakRow : isBreakRow breakRow = true := by
  decide

theorem sentinelRows_show_items {t : Trace Float} (h : t.Contiguous) :
    t.sentinelRows.size = t.vertexCount ∧ t.items.length = t.vertexCount ∧
      (∀ j : Nat, t.items[j]? = some .lineBreak →
        ∃ row, t.sentinelRows[j]? = some row ∧ isBreakRow row = true) ∧
      (∀ (j : Nat) p, t.items[j]? = some (.vertex p) → t.sentinelRows[j]? = some p) ∧
      ((∀ p ∈ t.coords, isBreakRow p = false) →
        t.sentinelRows.toList.splitOnP isBreakRow = t.runs) := by
  have hrepresents := h.represents
  have hrows : t.sentinelRows = (t.items.map (rowOr breakRow)).toArray := by
    rw [sentinelRows, ← rows_ofItems, hrepresents.ofItems_eq]
  have hrow : ∀ j : Nat, t.sentinelRows[j]? = t.items[j]?.map (rowOr breakRow) := by
    intro j
    rw [hrows, List.getElem?_toArray, List.getElem?_map]
  refine ⟨?_, hrepresents.vertexCount_eq.symm, ?_, ?_, ?_⟩
  · rw [hrows, List.size_toArray, List.length_map, hrepresents.vertexCount_eq]
  · intro j hj
    refine ⟨breakRow, ?_, isBreakRow_breakRow⟩
    rw [hrow, hj]
    rfl
  · intro j p hj
    rw [hrow, hj]
    rfl
  · intro hvertices
    obtain ⟨first, later, hruns, -⟩ := h.exists_runs
    rw [hrows, items_eq_joinRuns hruns, hruns]
    apply splitOnP_map_rowOr isBreakRow_breakRow
    intro run hrun p hp
    apply hvertices
    rw [← Array.mem_toList_iff, ← hrepresents.flatten_runs, hruns]
    exact List.mem_flatten_of_mem hrun hp

def skerries : List (TraceItem Float) :=
  [.lineBreak, .vertex ⟨1, 2, 3⟩, .vertex ⟨4, 5, 6⟩, .lineBreak, .lineBreak, .vertex ⟨7, 8, 9⟩,
    .lineBreak]

theorem sentinelRows_show_items_skerries :
    (ofItems skerries).Contiguous ∧ (∀ p ∈ (ofItems skerries).coords, isBreakRow p = false) ∧
      (ofItems skerries).sentinelRows.size = 7 ∧
      (ofItems skerries).sentinelRows[5]? = some ⟨7, 8, 9⟩ ∧
      (ofItems skerries).sentinelRows.toList.splitOnP isBreakRow
        = [[], [⟨1, 2, 3⟩, ⟨4, 5, 6⟩], [], [⟨7, 8, 9⟩], []] := by
  have hcontiguous := contiguous_ofItems skerries
  have hvertices : ∀ p ∈ (ofItems skerries).coords, isBreakRow p = false := by decide
  obtain ⟨hsize, -, -, hvertex, hsplit⟩ := sentinelRows_show_items hcontiguous
  exact ⟨hcontiguous, hvertices, hsize, hvertex 5 ⟨7, 8, 9⟩ rfl, hsplit hvertices⟩

end Trace

end LSystem
