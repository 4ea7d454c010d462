import LSystem.Proofs.Expansion.Productions

namespace LSystem

namespace ProductionTable

structure Tabulates (t : ProductionTable) (g : Grammar) (n : Nat) : Prop where
  size_starts : t.starts.size = n
  size_lengths : t.lengths.size = n
  size_replaced : t.replaced.size = n
  length_eq : ∀ i < n, t.length i = (g.production i).length
  isReplaced_eq : ∀ i < n, t.isReplaced i = g.hasProduction i
  flat_eq : ∀ i < n, ∀ j < (g.production i).length, t.flat[t.start i + j]? = (g.production i)[j]?

variable {g : Grammar} {t : ProductionTable} {n : Nat}

theorem start_add (t : ProductionTable) (ids : List Int) (own : Bool) (i : Nat) :
    (t.add ids own).start i = if i = t.starts.size then t.flat.size else t.start i := by
  by_cases hi : i = t.starts.size <;> simp [start, add, Array.getElem?_push, hi]

theorem length_add (t : ProductionTable) (ids : List Int) (own : Bool) (i : Nat) :
    (t.add ids own).length i = if i = t.lengths.size then ids.length else t.length i := by
  by_cases hi : i = t.lengths.size <;> simp [length, add, Array.getElem?_push, hi]

theorem isReplaced_add (t : ProductionTable) (ids : List Int) (own : Bool) (i : Nat) :
    (t.add ids own).isReplaced i = if i = t.replaced.size then own else t.isReplaced i := by
  by_cases hi : i = t.replaced.size <;> simp [isReplaced, add, Array.getElem?_push, hi]

theorem tabulates_empty (g : Grammar) : empty.Tabulates g 0 := by
  constructor <;> simp [empty]

theorem Tabulates.add (h : t.Tabulates g n) :
    (t.add (g.production n) (g.hasProduction n)).Tabulates g (n + 1) := by
  refine ⟨?_, ?_, ?_, ?_, ?_, ?_⟩
  · simp [ProductionTable.add, h.size_starts]
  · simp [ProductionTable.add, h.size_lengths]
  · simp [ProductionTable.add, h.size_replaced]
  · intro i hi
    rw [length_add, h.size_lengths]
    split
    · next heq => rw [heq]
    · next hne => exact h.length_eq i (by omega)
  · intro i hi
    rw [isReplaced_add, h.size_replaced]
    split
    · next heq => rw [heq]
    · next hne => exact h.isReplaced_eq i (by omega)
  · intro i hi j hj
    have hadd : (t.add (g.production n) (g.hasProduction n)).flat
        = t.flat ++ (g.production n).toArray :=
      Array.toList_inj.mp (by simp [ProductionTable.add])
    rw [start_add, h.size_starts, hadd]
    split
    · next heq =>
      rw [heq, Array.getElem?_append_right (by omega)]
      simp
    · next hne =>
      have hold := h.flat_eq i (by omega) j hj
      have hlt : t.start i + j < t.flat.size := by
        rw [List.getElem?_eq_getElem hj] at hold
        exact (Array.getElem?_eq_some_iff.mp hold).1
      rw [← hold]
      exact Array.getElem?_append_left hlt

theorem tabulates_below (g : Grammar) (n : Nat) : (below g n).Tabulates g n := by
  induction n with
  | zero => exact tabulates_empty g
  | succ n ih =>
    have hsucc : below g (n + 1) = (below g n).add (g.production n) (g.hasProduction n) := by
      simp [below, List.range_succ]
    rw [hsucc]
    exact ih.add

theorem tabulates_ofGrammar (g : Grammar) : (ofGrammar g).Tabulates g g.idCount :=
  tabulates_below g g.idCount

theorem toList_pushPlaces (shift : Int) (n : Nat) (places : Array Int) :
    (pushPlaces shift n places).toList
      = places.toList ++ (List.range n).map fun j : Nat => shift + (places.size + j : Nat) := by
  induction n generalizing places with
  | zero => simp [pushPlaces]
  | succ n ih =>
    rw [pushPlaces, ih, List.range_succ_eq_map]
    simp [Function.comp_def, Nat.add_assoc, Nat.add_comm 1]

def piece (t : ProductionTable) (id : Int) : List Int :=
  (List.range (t.length id)).map fun j : Nat => ((t.start id + j : Nat) : Int)

theorem toList_places (t : ProductionTable) (ids : List Int) :
    (t.places ids.toArray).toList = ids.flatMap t.piece := by
  suffices h : ∀ places : Array Int,
      (ids.foldl (fun places id => pushPlaces (t.start id - places.size) (t.length id) places)
        places).toList = places.toList ++ ids.flatMap t.piece by
    simpa [places] using h #[]
  induction ids with
  | nil => simp
  | cons id ids ih =>
    intro places
    have hpush : (pushPlaces (t.start id - places.size) (t.length id) places).toList
        = places.toList ++ t.piece id := by
      rw [toList_pushPlaces, piece]
      congr 2
      funext j
      omega
    rw [List.foldl_cons, ih, hpush, List.flatMap_cons, List.append_assoc]

theorem Tabulates.map_piece (h : t.Tabulates g n) {id : Int} (h0 : 0 ≤ id) (hn : id < n) :
    (t.piece id).map (fun i => t.flat.getD i.toNat 0) = g.production id := by
  obtain ⟨i, rfl⟩ := Int.eq_ofNat_of_zero_le h0
  have hi : i < n := by omega
  rw [piece, h.length_eq i hi]
  refine List.ext_getElem (by simp) fun j hj hj' => ?_
  have hflat := h.flat_eq i hi j hj'
  rw [List.getElem?_eq_getElem hj'] at hflat
  simp only [List.getElem_map, List.getElem_range, Int.toNat_natCast, Array.getD_eq_getD_getElem?,
    hflat, Option.getD_some]

def InRange (n : Nat) (ids : List Int) : Prop :=
  ∀ id ∈ ids, 0 ≤ id ∧ id < n

theorem Tabulates.gather_eq (h : t.Tabulates g n) {ids : List Int} (hids : InRange n ids) :
    t.gather ids.toArray = (g.rewrite ids).toArray := by
  apply Array.toList_inj.mp
  rw [gather, Array.toList_map, toList_places, List.map_flatMap]
  exact List.flatMap_congr fun id hid => h.map_piece (hids id hid).1 (hids id hid).2

theorem Tabulates.nextLength_eq (h : t.Tabulates g n) {ids : List Int} (hids : InRange n ids) :
    t.nextLength ids.toArray = (g.rewrite ids).length := by
  suffices hsum : ∀ k, ids.foldl (fun k id => k + t.length id) k = k + (g.rewrite ids).length by
    simpa [nextLength] using hsum 0
  induction ids with
  | nil => simp
  | cons id ids ih =>
    intro k
    obtain ⟨h0, hn⟩ := hids id (by simp)
    have hlen : t.length id = (g.production id).length := by
      rw [← h.map_piece h0 hn]
      simp [piece]
    rw [List.foldl_cons, ih fun x hx => hids x (by simp [hx]), hlen, Grammar.rewrite_cons,
      List.length_append, Nat.add_assoc]

theorem Tabulates.any_isReplaced (h : t.Tabulates g n) {ids : List Int} (hids : InRange n ids) :
    ids.toArray.any t.isReplaced = ids.any g.hasProduction := by
  rw [List.any_toArray]
  induction ids with
  | nil => rfl
  | cons id ids ih =>
    obtain ⟨h0, hn⟩ := hids id (by simp)
    obtain ⟨i, rfl⟩ := Int.eq_ofNat_of_zero_le h0
    rw [List.any_cons, List.any_cons, h.isReplaced_eq i (by omega),
      ih fun x hx => hids x (by simp [hx])]

end ProductionTable

namespace Grammar

open ProductionTable

variable {g : Grammar}

def NonNegative (g : Grammar) : Prop :=
  ∀ id ∈ g.occurring, 0 ≤ id

theorem toNat_succ_le_idCount {id : Int} (h : id ∈ g.occurring) : (id + 1).toNat ≤ g.idCount := by
  suffices hmax : ∀ (ids : List Int) (n : Nat),
      n ≤ ids.foldl (fun n id => max n (id + 1).toNat) n ∧
        ∀ id ∈ ids, (id + 1).toNat ≤ ids.foldl (fun n id => max n (id + 1).toNat) n from
    (hmax g.occurring g.alphabet.size).2 id h
  intro ids
  induction ids with
  | nil => simp
  | cons x ids ih =>
    intro n
    obtain ⟨hle, hmem⟩ := ih (max n (x + 1).toNat)
    refine ⟨by simp only [List.foldl_cons]; omega, ?_⟩
    intro id hid
    rcases List.mem_cons.mp hid with rfl | hid
    · simp only [List.foldl_cons]
      omega
    · exact hmem id hid

theorem NonNegative.inRange (h : g.NonNegative) {ids : List Int}
    (hids : ∀ id ∈ ids, id ∈ g.occurring) : InRange g.idCount ids := by
  intro id hid
  have h0 := h id (hids id hid)
  have hn := toNat_succ_le_idCount (hids id hid)
  omega

theorem NonNegative.inRange_start (h : g.NonNegative) : InRange g.idCount g.start :=
  h.inRange fun _ hid => List.mem_append_left _ (List.mem_append_left _ hid)

theorem mem_occurring_of_production {id x : Int} {ids : List Int}
    (h : g.productions.get? id = some ids) (hx : x ∈ ids) : x ∈ g.occurring := by
  have hm := Dictionary.mem_of_get? h
  exact List.mem_append_right _ (List.mem_flatMap.mpr ⟨_, hm, hx⟩)

theorem NonNegative.inRange_rewrite (h : g.NonNegative) {ids : List Int}
    (hids : InRange g.idCount ids) : InRange g.idCount (g.rewrite ids) := by
  intro x hx
  obtain ⟨id, hid, hx⟩ := List.mem_flatMap.mp hx
  cases hp : g.productions.get? id with
  | none =>
    obtain rfl : x = id := by simpa [production, hp] using hx
    exact hids x hid
  | some xs =>
    have hxs : x ∈ xs := by simpa [production, hp] using hx
    have hall : InRange g.idCount xs := h.inRange fun y hy => mem_occurring_of_production hp hy
    exact hall x hxs

theorem NonNegative.inRange_generation (h : g.NonNegative) (n : Nat) :
    InRange g.idCount (g.generation n) := by
  induction n with
  | zero => exact h.inRange_start
  | succ n ih =>
    rw [generation_succ]
    exact h.inRange_rewrite ih

theorem NonNegative.expandFrom_eq (h : g.NonNegative) (limit : Option Int) (number left : Nat)
    {ids : List Int} (hids : InRange g.idCount ids) :
    expandFrom (.ofGrammar g) limit number left ids.toArray
      = (Productions.grow g.productions limit number left ids).map List.toArray := by
  have ht := tabulates_ofGrammar g
  induction left generalizing number ids with
  | zero => rfl
  | succ left ih =>
    have hany : ids.any (Productions.has g.productions) = ids.any g.hasProduction := rfl
    have hnext : Productions.rewrite g.productions ids = g.rewrite ids := rfl
    rw [expandFrom, Productions.grow, ht.any_isReplaced hids, ht.nextLength_eq hids,
      ht.gather_eq hids, ih _ (h.inRange_rewrite hids), hany, hnext]
    split
    · rfl
    · dsimp only
      cases limit.filter fun l => l < ((g.rewrite ids).length : Int) with
      | some l => rfl
      | none =>
        by_cases h0 : g.rewrite ids = []
        · simp only [h0, Productions.grow_nil]
          rfl
        · simp only [List.length_eq_zero_iff, h0, if_false]

theorem NonNegative.expand_eq (h : g.NonNegative) (iterations : Nat) (limit : Option Int) :
    g.expand iterations limit
      = (Productions.grow g.productions limit 1 iterations g.start).map List.toArray := by
  rw [expand]
  split
  · next hshort =>
    simp only [Bool.or_eq_true, decide_eq_true_eq, List.isEmpty_toArray,
      List.isEmpty_iff] at hshort
    rcases hshort with (h0 | hnil) | hnone
    · rw [h0]
      rfl
    · rw [hnil, Productions.grow_nil]
      rfl
    · have hany : g.start.any (Productions.has g.productions) = false := by
        simp [hnone, Productions.has]
      cases iterations with
      | zero => rfl
      | succ left =>
        rw [Productions.grow, hany]
        rfl
  · exact h.expandFrom_eq limit 1 iterations h.inRange_start

end Grammar

end LSystem
