import LSystem.Proofs.Trace.Runs
import LSystem.Proofs.Wavefront.Writable
import Mathlib.Data.List.Basic

namespace LSystem

variable {α : Type}

namespace Trace

/-- The vertex with the number `i`, counted from one, and the next one stand side by side. -/
def Adjacent (items : List (TraceItem α)) (i : Nat) : Prop :=
  ∃ before p q after, items = before ++ .vertex p :: .vertex q :: after ∧
    (vertices before).length + 1 = i

variable {items : List (TraceItem α)} {i : Nat}

theorem adjacent_lineBreak : Adjacent (.lineBreak :: items) i ↔ Adjacent items i := by
  constructor
  · rintro ⟨before, p, q, after, heq, hi⟩
    rcases List.cons_eq_append_iff.mp heq with ⟨-, hfirst⟩ | ⟨rest, rfl, hrest⟩
    · cases hfirst
    · exact ⟨rest, p, q, after, hrest, hi⟩
  · rintro ⟨before, p, q, after, rfl, hi⟩
    exact ⟨.lineBreak :: before, p, q, after, rfl, hi⟩

theorem adjacent_vertex {p : Point α} :
    Adjacent (.vertex p :: items) i ↔
      (i = 1 ∧ ∃ q rest, items = .vertex q :: rest) ∨ ∃ j, i = j + 1 ∧ Adjacent items j := by
  constructor
  · rintro ⟨before, p', q, after, heq, hi⟩
    rcases List.cons_eq_append_iff.mp heq with ⟨rfl, hfirst⟩ | ⟨rest, rfl, hrest⟩
    · obtain ⟨-, hrest⟩ := List.cons.inj hfirst
      exact Or.inl ⟨hi.symm, q, after, hrest.symm⟩
    · exact Or.inr ⟨_, hi.symm, rest, p', q, after, hrest, rfl⟩
  · rintro (⟨rfl, q, rest, rfl⟩ | ⟨j, rfl, before, p', q, after, rfl, hi⟩)
    · exact ⟨[], p, q, rest, rfl, rfl⟩
    · exact ⟨.vertex p :: before, p', q, after, rfl, congrArg (· + 1) hi⟩

theorem adjacent_iff (items : List (TraceItem α)) (n i : Nat) :
    Adjacent items (i + 1) ↔
      i + 1 < (vertices items).length ∧ ((n + i + 1 : Nat) : Int) ∉ breaksFrom n items := by
  induction items generalizing n i with
  | nil =>
    constructor
    · rintro ⟨before, p, q, after, heq, -⟩
      simp at heq
    · rintro ⟨hlength, -⟩
      exact absurd hlength (Nat.not_lt_zero _)
  | cons item items ih =>
    cases item with
    | lineBreak =>
      have hne : ((n + i + 1 : Nat) : Int) ≠ n := by omega
      rw [adjacent_lineBreak, ih n i, breaksFrom, vertices_cons_lineBreak, List.mem_cons]
      simp only [hne, false_or]
    | vertex p =>
      rw [adjacent_vertex, breaksFrom, vertices_cons_vertex, List.length_cons]
      cases i with
      | zero =>
        cases items with
        | nil => simp [vertices, Adjacent]
        | cons next rest =>
          cases next with
          | vertex q =>
            have hafter : ((n + 1 : Nat) : Int) ∉ breaksFrom (n + 2) rest := by
              intro hmem
              have hle := (bounds_of_mem_breaksFrom hmem).1
              omega
            simpa [breaksFrom] using hafter
          | lineBreak => simp [breaksFrom, Adjacent]
      | succ i =>
        have hplace : n + (i + 1) + 1 = n + 1 + i + 1 := by omega
        simp [ih (n + 1) i, hplace]

end Trace

namespace Wavefront

open Trace

section Offsets

variable {o last : Int} {rest : List Int}

theorem le_of_getLast? (hsorted : (o :: rest).Pairwise (· ≤ ·))
    (hlast : (o :: rest).getLast? = some last) : ∀ x ∈ o :: rest, x ≤ last := by
  obtain ⟨before, heq⟩ := List.getLast?_eq_some_iff.mp hlast
  rw [heq] at hsorted ⊢
  intro x hx
  rcases List.mem_append.mp hx with hx | hx
  · exact (List.pairwise_append.mp hsorted).2.2 x hx last (List.mem_singleton_self last)
  · exact Int.le_of_eq (List.mem_singleton.mp hx)

theorem le_of_mem_neighbours (hsorted : (o :: rest).Pairwise (· ≤ ·)) :
    ∀ e ∈ neighbours (o :: rest), o ≤ e.1 ∧ e.1 ≤ e.2 ∧ e.2 ∈ o :: rest := by
  induction rest generalizing o with
  | nil =>
    intro e he
    cases he
  | cons o' rest ih =>
    obtain ⟨hfirst, hrest⟩ := List.pairwise_cons.mp hsorted
    have hle : o ≤ o' := hfirst o' (List.mem_cons_self ..)
    intro e he
    rcases List.mem_cons.mp he with rfl | he
    · exact ⟨Int.le_refl _, hle, by simp⟩
    · obtain ⟨hfrom, hto, hmem⟩ := ih hrest e he
      exact ⟨Int.le_trans hle hfrom, hto, List.mem_cons_of_mem _ hmem⟩

theorem exists_neighbours_iff {i : Int} (hsorted : (o :: rest).Pairwise (· ≤ ·))
    (hlast : (o :: rest).getLast? = some last) (ho : o ≤ i) :
    (∃ e ∈ neighbours (o :: rest), e.1 ≤ i ∧ i + 2 ≤ e.2) ↔ i + 1 < last ∧ i + 1 ∉ rest := by
  induction rest generalizing o with
  | nil =>
    obtain rfl : o = last := Option.some.inj hlast
    simp only [neighbours, List.not_mem_nil, false_and, exists_false, not_false_eq_true, and_true,
      false_iff]
    omega
  | cons o' rest ih =>
    have hrest := (List.pairwise_cons.mp hsorted).2
    rw [List.getLast?_cons_cons] at hlast
    simp only [neighbours, List.mem_cons, exists_eq_or_imp]
    by_cases hle : o' ≤ i
    · rw [ih hrest hlast hle]
      constructor
      · rintro (hhere | hthere)
        · omega
        · exact ⟨hthere.1, not_or.mpr ⟨by omega, hthere.2⟩⟩
      · rintro ⟨hlt, hnot⟩
        exact Or.inr ⟨hlt, (not_or.mp hnot).2⟩
    · constructor
      · rintro (⟨-, hhere⟩ | ⟨e, he, hthere, -⟩)
        · have hend : o' ≤ last := le_of_getLast? hrest hlast o' (List.mem_cons_self ..)
          refine ⟨by omega, ?_⟩
          rintro (heq | hmem)
          · omega
          · have hfar : o' ≤ i + 1 := (List.pairwise_cons.mp hrest).1 _ hmem
            omega
        · have hfrom := (le_of_mem_neighbours hrest e he).1
          omega
      · rintro ⟨-, hnot⟩
        exact Or.inl ⟨ho, by omega⟩

end Offsets

section Chains

def chain? (e : Int × Int) : Option (List Nat) :=
  if e.2 - e.1 < 2 then none else some (List.range' (e.1.toNat + 1) (e.2 - e.1).toNat)

structure Numbered (n : Nat) (chains : List (List Nat)) : Prop where
  two_le : ∀ c ∈ chains, 2 ≤ c.length
  consecutive : ∀ c ∈ chains, ∃ i, c = List.range' i c.length
  within : ∀ c ∈ chains, ∀ i ∈ c, 1 ≤ i ∧ i ≤ n
  ascending : chains.flatten.Pairwise (· < ·)

variable {e : Int × Int} {c : List Nat} {i : Nat}

theorem chain?_eq_some_iff :
    chain? e = some c ↔ 2 ≤ e.2 - e.1 ∧ c = List.range' (e.1.toNat + 1) (e.2 - e.1).toNat := by
  rw [chain?]
  split
  · next hshort => simp [Int.not_le.mpr hshort]
  · next hlong => simp [Int.not_lt.mp hlong, eq_comm]

theorem infix_range'_iff {s n : Nat} :
    [i, i + 1] <:+: List.range' s n ↔ s ≤ i ∧ i + 2 ≤ s + n := by
  constructor
  · intro h
    have hfirst := List.mem_range'_1.mp (h.subset (List.mem_cons_self ..))
    have hsecond := List.mem_range'_1.mp (h.subset (List.mem_cons_of_mem _ (List.mem_cons_self ..)))
    omega
  · rintro ⟨hfrom, hto⟩
    obtain ⟨k, rfl⟩ := Nat.exists_eq_add_of_le hfrom
    obtain ⟨m, rfl⟩ : ∃ m, n = k + (2 + m) := ⟨n - k - 2, by omega⟩
    refine ⟨List.range' s k, List.range' (s + k + 2) m, ?_⟩
    have hpair : [s + k, s + k + 1] = List.range' (s + k) 2 := rfl
    rw [hpair, List.append_assoc, List.range'_append_1, List.range'_append_1]

theorem mem_flatten_chains {o : Int} {rest : List Int} (hsorted : (o :: rest).Pairwise (· ≤ ·))
    (ho : 0 ≤ o) (hi : i ∈ ((neighbours (o :: rest)).filterMap chain?).flatten) :
    o < i ∧ ∃ x ∈ o :: rest, (i : Int) ≤ x := by
  obtain ⟨c, hc, hi⟩ := List.mem_flatten.mp hi
  obtain ⟨e, he, hchain⟩ := List.mem_filterMap.mp hc
  obtain ⟨-, rfl⟩ := chain?_eq_some_iff.mp hchain
  obtain ⟨hfrom, hle, hmem⟩ := le_of_mem_neighbours hsorted e he
  have hbounds := List.mem_range'_1.mp hi
  exact ⟨by omega, e.2, hmem, by omega⟩

theorem ascending_chains {o : Int} {rest : List Int} (hsorted : (o :: rest).Pairwise (· ≤ ·))
    (ho : 0 ≤ o) : ((neighbours (o :: rest)).filterMap chain?).flatten.Pairwise (· < ·) := by
  induction rest generalizing o with
  | nil => exact .nil
  | cons o' rest ih =>
    obtain ⟨hfirst, hrest⟩ := List.pairwise_cons.mp hsorted
    have hle : o ≤ o' := hfirst o' (List.mem_cons_self ..)
    have ho' : 0 ≤ o' := Int.le_trans ho hle
    rw [neighbours]
    cases hchain : chain? (o, o') with
    | none =>
      rw [List.filterMap_cons_none hchain]
      exact ih hrest ho'
    | some c =>
      rw [List.filterMap_cons_some hchain, List.flatten_cons, List.pairwise_append]
      obtain ⟨-, rfl⟩ := chain?_eq_some_iff.mp hchain
      refine ⟨List.pairwise_lt_range' 1, ih hrest ho', ?_⟩
      -- what is on this line is no more than `o'`, and all that follows is more
      intro i hi j hj
      have hhere := List.mem_range'_1.mp hi
      have hthere := (mem_flatten_chains hrest ho' hj).1
      dsimp only at hhere
      omega

theorem numbered_chains {o : Int} {rest : List Int} {n : Nat}
    (hsorted : (o :: rest).Pairwise (· ≤ ·)) (ho : 0 ≤ o)
    (hlast : (o :: rest).getLast? = some (n : Int)) :
    Numbered n ((neighbours (o :: rest)).filterMap chain?) where
  two_le c hc := by
    obtain ⟨e, -, hchain⟩ := List.mem_filterMap.mp hc
    obtain ⟨htwo, rfl⟩ := chain?_eq_some_iff.mp hchain
    rw [List.length_range']
    omega
  consecutive c hc := by
    obtain ⟨e, -, hchain⟩ := List.mem_filterMap.mp hc
    obtain ⟨-, rfl⟩ := chain?_eq_some_iff.mp hchain
    exact ⟨e.1.toNat + 1, by rw [List.length_range']⟩
  within c hc i hi := by
    obtain ⟨hfrom, x, hx, hto⟩ :=
      mem_flatten_chains hsorted ho (List.mem_flatten.mpr ⟨c, hc, hi⟩)
    have hle := le_of_getLast? hsorted hlast x hx
    omega
  ascending := ascending_chains hsorted ho

theorem exists_infix_chains_iff {o : Int} {rest : List Int} {n : Nat}
    (hsorted : (o :: rest).Pairwise (· ≤ ·)) (ho : 0 ≤ o)
    (hlast : (o :: rest).getLast? = some (n : Int)) (hi : o < i) :
    (∃ c ∈ (neighbours (o :: rest)).filterMap chain?, [i, i + 1] <:+: c) ↔
      i < n ∧ (i : Int) ∉ rest := by
  have hpairs : (∃ c ∈ (neighbours (o :: rest)).filterMap chain?, [i, i + 1] <:+: c) ↔
      ∃ e ∈ neighbours (o :: rest), e.1 ≤ (i : Int) - 1 ∧ (i : Int) - 1 + 2 ≤ e.2 := by
    constructor
    · rintro ⟨c, hc, hinfix⟩
      obtain ⟨e, he, hchain⟩ := List.mem_filterMap.mp hc
      obtain ⟨-, rfl⟩ := chain?_eq_some_iff.mp hchain
      have hfrom := (le_of_mem_neighbours hsorted e he).1
      have hbounds := infix_range'_iff.mp hinfix
      exact ⟨e, he, by omega, by omega⟩
    · rintro ⟨e, he, hfirst, hsecond⟩
      have hfrom := (le_of_mem_neighbours hsorted e he).1
      refine ⟨_, List.mem_filterMap.mpr ⟨e, he, chain?_eq_some_iff.mpr ⟨by omega, rfl⟩⟩, ?_⟩
      exact infix_range'_iff.mpr ⟨by omega, by omega⟩
  rw [hpairs, exists_neighbours_iff hsorted hlast (by omega), Int.sub_add_cancel, Int.ofNat_lt]

end Chains

section Lines

variable {c : List Nat} {t : Trace Float}

def polyline (numbers : List Nat) : String :=
  "l " ++ " ".intercalate (numbers.map toString)

def numbersIn (line : String) : List Nat :=
  ((line.toList.splitOn ' ').drop 1).map fun digits => Nat.ofDigitChars 10 digits 0

theorem not_mem_toDigits {n : Nat} {c : Char} (h : c.isDigit = false) : c ∉ Nat.toDigits 10 n := by
  intro hmem
  rw [Nat.isDigit_of_mem_toDigits (by decide) (by decide) hmem] at h
  cases h

theorem numbersIn_polyline (h : c ≠ []) : numbersIn (polyline c) = c := by
  have hwords : (polyline c).toList = [' '].intercalate (['l'] :: c.map (Nat.toDigits 10)) := by
    obtain ⟨n, rest, rfl⟩ := List.exists_cons_of_ne_nil h
    simp [polyline, String.toList_intercalate, Function.comp_def]
  have hsplit : (polyline c).toList.splitOn ' ' = ['l'] :: c.map (Nat.toDigits 10) := by
    rw [hwords]
    apply List.splitOn_intercalate
    · intro word hword
      rcases List.mem_cons.mp hword with rfl | hword
      · decide
      · obtain ⟨n, -, rfl⟩ := List.mem_map.mp hword
        exact not_mem_toDigits rfl
    · simp
  have hread : (fun digits => Nat.ofDigitChars 10 digits 0) ∘ Nat.toDigits 10 = id := by
    funext n
    exact Nat.ofDigitChars_ten_toDigits
  rw [numbersIn, hsplit, List.drop_one, List.tail_cons, List.map_map, hread, List.map_id]

theorem numbers_natCast (a : Nat) (b : Int) :
    (numbers a b).map toString = (List.range' (a + 1) (b - a).toNat).map toString := by
  rw [numbers, List.range'_eq_map_range, List.map_map, List.map_map]
  apply List.map_congr_left
  intro i _
  have hcast : (a : Int) + i + 1 = ((a + 1 + i : Nat) : Int) := by omega
  exact congrArg toString hcast

theorem runLine?_eq {a b : Int} (ha : 0 ≤ a) : runLine? a b = (chain? (a, b)).map polyline := by
  obtain ⟨a, rfl⟩ := Int.eq_ofNat_of_zero_le ha
  rw [runLine?, chain?, numbers_natCast]
  split <;> rfl

theorem lines_eq (h : t.Contiguous) (places : Nat) (name : Option String) :
    lines t places name = header t name ++ (vertices t.items).map (vertexLine places)
      ++ (t.bounds.filterMap chain?).map polyline := by
  have hrun : ∀ e ∈ t.bounds, runLine? e.1 e.2 = (chain? e).map polyline := by
    intro e he
    exact runLine?_eq (h.le_of_mem_bounds e he).1
  rw [lines, List.map_filterMap, List.filterMap_congr hrun, h.toList_coords]

theorem map_numbersIn {cs : List (List Nat)} (h : ∀ c ∈ cs, 2 ≤ c.length) :
    (cs.map polyline).map numbersIn = cs := by
  rw [List.map_map]
  conv_rhs => rw [← List.map_id cs]
  apply List.map_congr_left
  intro c hc
  apply numbersIn_polyline
  rintro rfl
  exact absurd (h [] hc) (by decide)

theorem lines_draw_segments (h : t.Contiguous) (places : Nat) :
    linesWith t (.int places) none
        = (fault? t places).elim (.ok (lines t places none)) .error ∧
      (fault? t places = none ↔ Writable t places) ∧
      ∃ ls, lines t places none
          = header t none ++ (vertices t.items).map (vertexLine places) ++ ls ∧
        (header t none).length = 2 ∧ (vertices t.items).length = t.pointCount ∧
        ls = (ls.map numbersIn).map polyline ∧
        Numbered t.pointCount (ls.map numbersIn) ∧
        ∀ i, 1 ≤ i → i < t.pointCount →
          ((∃ c ∈ ls.map numbersIn, [i, i + 1] <:+: c) ↔ Adjacent t.items i) := by
  have hoffsets := h.toList_offsets
  have hsorted := h.pairwise_offsets
  rw [hoffsets] at hsorted
  have hlast : (0 :: (breaksFrom 0 t.items ++ [(t.pointCount : Int)])).getLast?
      = some (t.pointCount : Int) := by
    rw [← List.cons_append, List.getLast?_concat]
  have hnumbered := numbered_chains hsorted (Int.le_refl 0) hlast
  have hjoined := fun i => exists_infix_chains_iff (i := i) hsorted (Int.le_refl 0) hlast
  rw [← hoffsets, ← bounds] at hnumbered hjoined
  have hread := map_numbersIn hnumbered.two_le
  have hlength : (vertices t.items).length = t.pointCount := by
    rw [← h.toList_coords, Array.length_toList, pointCount]
  refine ⟨linesWith_int (Int.natCast_nonneg places) t none, fault?_eq_none_iff,
    (t.bounds.filterMap chain?).map polyline, lines_eq h places none, rfl, hlength, ?_, ?_, ?_⟩
  · rw [hread]
  · rw [hread]
    exact hnumbered
  · intro i hpos hi
    obtain ⟨j, rfl⟩ := Nat.exists_eq_add_of_le' hpos
    have hne : ((j + 1 : Nat) : Int) ≠ t.pointCount := by omega
    rw [hread, hjoined (j + 1) (by omega), adjacent_iff t.items 0 j, hlength, Nat.zero_add,
      List.mem_append, List.mem_singleton]
    simp only [hne, or_false]

def fork : List (TraceItem Float) :=
  [.vertex ⟨0, 1, 0⟩, .vertex ⟨0, 2, 0⟩, .lineBreak, .lineBreak, .vertex ⟨0, 1, 0⟩]

theorem lines_draw_segments_fork :
    (ofItems fork).Contiguous ∧
      linesWith (ofItems fork) (.int 3) none = .ok (lines (ofItems fork) 3 none) ∧
      ∃ ls, lines (ofItems fork) 3 none
          = header (ofItems fork) none ++ (vertices fork).map (vertexLine 3) ++ ls ∧
        (∃ c ∈ ls.map numbersIn, [1, 2] <:+: c) ∧ ¬ ∃ c ∈ ls.map numbersIn, [2, 3] <:+: c := by
  have hcontiguous := contiguous_ofItems fork
  have hitems := (represents_ofItems fork).items_eq
  obtain ⟨hwith, hfault, ls, hls, -, -, -, -, hjoined⟩ := lines_draw_segments hcontiguous 3
  rw [hfault.mpr (writable_of_le (by decide))] at hwith
  rw [hitems] at hls hjoined
  refine ⟨hcontiguous, hwith, ls, hls, ?_, ?_⟩
  · rw [hjoined 1 (by decide) (by decide)]
    exact ⟨[], _, _, _, rfl, rfl⟩
  · rw [hjoined 2 (by decide) (by decide), adjacent_iff fork 0 1]
    decide

theorem no_lines_beyond_places :
    (ofItems [.vertex ⟨1 / 0, 1 / 0, 1 / 0⟩] : Trace Float).Contiguous ∧
      (0 : Int) ≤ 2147483648 ∧
      linesWith (ofItems [.vertex ⟨1 / 0, 1 / 0, 1 / 0⟩]) (.int 2147483648) none
        = .error (.tooManyPlaces 2147483648) ∧
      (ofItems [.vertex ⟨-1, 0, 0⟩] : Trace Float).Contiguous ∧
      (0 : Int) ≤ 1000000001 ∧
      ∃ s, linesWith (ofItems [.vertex ⟨-1, 0, 0⟩]) (.int 1000000001) none
        = .error (.mismatch (.notReal s)) := by
  refine ⟨contiguous_ofItems _, by decide, rfl, contiguous_ofItems _, by decide, ?_⟩
  have hmem : (-1 : Float) ∈ coordinates (ofItems [.vertex ⟨-1, 0, 0⟩]) :=
    List.mem_cons_self ..
  have hmagnitude : Decimal.magnitude (-1) = .finite ⟨Decimal.leastNormal, -52⟩ := by decide
  have hlong : Decimal.maxRealDigits < 1000000001 := by decide
  obtain ⟨s, hfault⟩ := exists_fault?_of_negative hmem hmagnitude (by decide) hlong (by decide)
  refine ⟨s, ?_⟩
  rw [linesWith_int (by decide)]
  change (fault? _ 1000000001).elim _ _ = _
  rw [hfault]
  rfl

end Lines

end Wavefront

end LSystem
