import LSystem.Proofs.Expansion.Generations
import LSystem.Proofs.Outcome
import Mathlib.Data.Set.Basic
import Mathlib.Order.Bounds.Basic

namespace LSystem

namespace Productions

variable {α : Type} [DecidableEq α] {p : Productions α} {limit : Int} {xs : List α}

def Oversteps (p : Productions α) (limit : Int) (xs : List α) (k : Nat) : Prop :=
  (p.rewrite^[k] xs).any p.has = true ∧ limit < (p.rewrite^[k + 1] xs).length

theorem iterate_rewrite_of_any_eq_false (h : xs.any p.has = false) (k : Nat) :
    p.rewrite^[k] xs = xs :=
  Function.iterate_fixed (rewrite_eq_self h) k

theorem not_oversteps_of_any_eq_false (h : xs.any p.has = false) (k : Nat) :
    ¬ p.Oversteps limit xs k := by
  rintro ⟨hany, -⟩
  rw [iterate_rewrite_of_any_eq_false h, h] at hany
  cases hany

theorem grow_some_cases (p : Productions α) (limit : Int) (number left : Nat) (xs : List α) :
    ((∀ k < left, ¬ p.Oversteps limit xs k)
        ∧ p.grow (some limit) number left xs = .ok (p.rewrite^[left] xs))
      ∨ ∃ k < left, p.Oversteps limit xs k ∧ (∀ j < k, ¬ p.Oversteps limit xs j)
        ∧ p.grow (some limit) number left xs
          = .error ⟨(p.rewrite^[k + 1] xs).length, limit, number + k⟩ := by
  induction left generalizing number xs with
  | zero => exact Or.inl ⟨nofun, rfl⟩
  | succ left ih =>
    rw [grow]
    by_cases hany : xs.any p.has = true
    · by_cases hlong : limit < ((p.rewrite xs).length : Int)
      · exact Or.inr ⟨0, Nat.succ_pos left, ⟨hany, hlong⟩, nofun, by
          simp [hany, hlong, Option.filter]⟩
      · have hfirst : ¬ p.Oversteps limit xs 0 := fun h => hlong h.2
        simp only [hany, Bool.not_true, Bool.false_eq_true, if_false, Option.filter, hlong,
          decide_false]
        rcases ih (number + 1) (p.rewrite xs) with ⟨hnone, hgrow⟩ | ⟨k, hk, hover, hleast, hgrow⟩
        · refine Or.inl ⟨fun k hk => ?_, hgrow⟩
          cases k with
          | zero => exact hfirst
          | succ k => exact hnone k (Nat.lt_of_succ_lt_succ hk)
        · refine Or.inr ⟨k + 1, Nat.succ_lt_succ hk, hover, fun j hj => ?_, ?_⟩
          · cases j with
            | zero => exact hfirst
            | succ j => exact hleast j (Nat.lt_of_succ_lt_succ hj)
          · rw [hgrow, Nat.add_right_comm number 1 k]
            rfl
    · have hfalse := Bool.eq_false_iff.mpr hany
      refine Or.inl ⟨fun k _ => not_oversteps_of_any_eq_false hfalse k, ?_⟩
      rw [iterate_rewrite_of_any_eq_false hfalse]
      simp [hfalse]

end Productions

namespace Grammar

variable {g : Grammar}

def Oversteps (g : Grammar) (limit : Int) (number : Nat) : Prop :=
  limit < (g.generation number).length ∧ ∃ id ∈ g.generation (number - 1), g.hasProduction id = true

theorem oversteps_succ_iff {limit : Int} {k : Nat} :
    g.Oversteps limit (k + 1) ↔ Productions.Oversteps g.productions limit g.start k := by
  rw [Oversteps, Productions.Oversteps, generation, generation, rewriteTimes_eq_iterate,
    rewriteTimes_eq_iterate, List.any_eq_true, and_comm]
  rfl

def overstepping (g : Grammar) (limit : Int) (n : Nat) : Set Nat :=
  {k | 1 ≤ k ∧ k ≤ n ∧ g.Oversteps limit k}

theorem succ_mem_overstepping {limit : Int} {n k : Nat} :
    k + 1 ∈ g.overstepping limit n
      ↔ k < n ∧ Productions.Oversteps g.productions limit g.start k := by
  rw [← oversteps_succ_iff]
  exact ⟨fun h => ⟨h.2.1, h.2.2⟩, fun h => ⟨Nat.succ_pos k, h.1, h.2⟩⟩

theorem NonNegative.expand_some_cases (h : g.NonNegative) (n : Nat) (limit : Int) :
    (g.overstepping limit n = ∅ ∧ g.expand n (some limit) = g.expand n none)
      ∨ ∃ number, IsLeast (g.overstepping limit n) number
        ∧ g.expand n (some limit)
          = .error ⟨(g.generation number).length, limit, number⟩ := by
  rw [h.expand_none, h.expand_eq]
  rcases Productions.grow_some_cases g.productions limit 1 n g.start with
    ⟨hnone, hgrow⟩ | ⟨k, hk, hover, hleast, hgrow⟩
  · refine Or.inl ⟨Set.eq_empty_iff_forall_notMem.mpr fun number hnumber => ?_, ?_⟩
    · obtain ⟨k, rfl⟩ := Nat.exists_eq_add_of_le' hnumber.1
      obtain ⟨hk, hover⟩ := succ_mem_overstepping.mp hnumber
      exact hnone k hk hover
    · rw [hgrow, generation, rewriteTimes_eq_iterate]
      rfl
  · refine Or.inr ⟨k + 1, ⟨succ_mem_overstepping.mpr ⟨hk, hover⟩, fun number hnumber => ?_⟩, ?_⟩
    · obtain ⟨j, rfl⟩ := Nat.exists_eq_add_of_le' hnumber.1
      obtain ⟨-, hj⟩ := succ_mem_overstepping.mp hnumber
      exact Nat.succ_le_succ (Nat.le_of_not_lt fun hlt => hleast j hlt hj)
    · rw [hgrow, generation, rewriteTimes_eq_iterate, Nat.add_comm 1 k]
      rfl

theorem NonNegative.overstepping_of_expand (h : g.NonNegative) {n : Nat} {limit : Int}
    {ids : Array Int} (hexpand : g.expand n (some limit) = .ok ids) :
    g.overstepping limit n = ∅ ∧ ids = (g.generation n).toArray := by
  rcases h.expand_some_cases n limit with ⟨hnone, hsame⟩ | ⟨number, -, herror⟩
  · rw [hexpand, h.expand_none] at hsame
    exact ⟨hnone, Except.ok.inj hsame⟩
  · rw [hexpand] at herror
    cases herror

theorem NonNegative.eq_generation_of_expand (h : g.NonNegative) {n : Nat} {limit : Option Int}
    {ids : Array Int} (hexpand : g.expand n limit = .ok ids) :
    ids = (g.generation n).toArray := by
  cases limit with
  | none => exact (Except.ok.inj ((h.expand_none n).symm.trans hexpand)).symm
  | some l => exact (h.overstepping_of_expand hexpand).2

section Keeping

variable {t : ProductionTable} {limit : Option Int}

def expandKeepingFrom (t : ProductionTable) (limit : Option Int) (number : Nat) :
    Nat → Array Int → List (Array Int) × Except GrowthError (Array Int)
  | 0, ids => ([], .ok ids)
  | left + 1, ids =>
    if !ids.any t.isReplaced then ([], .ok ids)
    else
      let length := t.nextLength ids
      match limit.filter fun l => l < (length : Int) with
      | some l => ([], .error ⟨length, l, number⟩)
      | none =>
        if length = 0 then ([#[]], .ok #[])
        else
          let next := t.gather ids
          let rest := expandKeepingFrom t limit (number + 1) left next
          (next :: rest.1, rest.2)

def expandKeeping (g : Grammar) (iterations : Nat) (limit : Option Int) :
    List (Array Int) × Except GrowthError (Array Int) :=
  let ids := g.start.toArray
  if iterations = 0 || ids.isEmpty || g.productions.isEmpty then ([], .ok ids)
  else expandKeepingFrom (.ofGrammar g) limit 1 iterations ids

end Keeping

def Fits (room : Nat) (g : Grammar) (n : Nat) : Prop :=
  g.start.all Value.fitsWord = true ∧ checkTable room g n = .ok ()

variable {room n : Nat}

theorem expandWith_of_fits (h : Fits room g n) (limit : Option Int) :
    expandWith room g (.int n) ((limit.map Value.int).getD .null)
      = (g.expand n limit).mapError .ofGrowth := by
  rw [expandWith_int, h.1, h.2]
  cases limit <;> rfl

theorem checkTable_ne_growth (room : Nat) (g : Grammar) (n : Nat) (e : GrowthError) :
    checkTable room g n ≠ .error (.growth e) := by
  unfold checkTable
  split
  · nofun
  · split
    · nofun
    · split <;> nofun

theorem exists_expandWith_of_not_fits (h : ¬ Fits room g n) :
    ∃ e, (∀ growth, e ≠ .growth growth)
      ∧ ∀ limit : Option Int, expandWith room g (.int n) ((limit.map Value.int).getD .null)
          = .error e := by
  by_cases hfits : g.start.all Value.fitsWord = true
  · cases htable : checkTable room g n with
    | ok => exact (h ⟨hfits, htable⟩).elim
    | error e =>
      refine ⟨e, fun growth he => checkTable_ne_growth room g n growth (he ▸ htable),
        fun limit => ?_⟩
      rw [expandWith_int, hfits, htable]
      cases limit <;> rfl
  · refine ⟨.mismatch .outOfRange, nofun, fun limit => ?_⟩
    rw [expandWith_int, Bool.eq_false_iff.mpr hfits]
    cases limit <;> rfl

theorem idCount_lt_of_checkTable (h : checkTable room g n = .ok ()) :
    (n = 0 ∨ g.start = [] ∨ g.productions = []) ∨ g.idCount < Value.halfWord := by
  rw [checkTable] at h
  split at h
  · next hshort => exact Or.inl hshort
  · split at h
    · cases h
    · next hbytes =>
      rw [idBytes] at hbytes
      omega

theorem expand_of_nothing_to_do (h : n = 0 ∨ g.start = [] ∨ g.productions = [])
    (limit : Option Int) : g.expand n limit = .ok g.start.toArray := by
  have hshort : (n = 0 || g.start.toArray.isEmpty || g.productions.isEmpty) = true := by
    simpa [or_assoc] using h
  rw [expand]
  exact if_pos hshort

theorem NonNegative.fitsWord_of_expandWith (h : g.NonNegative) {limit : Option Int}
    {ids : Array Int}
    (hids : expandWith room g (.int n) ((limit.map Value.int).getD .null) = .ok ids) :
    ids.all Value.fitsWord = true := by
  by_cases hfits : Fits room g n
  · rw [expandWith_of_fits hfits] at hids
    have hexpand := eq_ok_of_mapError_eq_ok hids
    rcases idCount_lt_of_checkTable hfits.2 with hshort | hcount
    · rw [expand_of_nothing_to_do hshort] at hexpand
      obtain rfl := Except.ok.inj hexpand
      simpa using hfits.1
    · obtain rfl : ids = (g.generation n).toArray := h.eq_generation_of_expand hexpand
      refine Array.all_eq_true_iff_forall_mem.mpr fun id hid => ?_
      have hrange := h.inRange_generation n id (List.mem_toArray.mp hid)
      simp only [Value.fitsWord, Bool.and_eq_true, decide_eq_true_eq]
      omega
  · obtain ⟨e, -, hall⟩ := exists_expandWith_of_not_fits hfits
    rw [hall] at hids
    cases hids

end Grammar

end LSystem
