import LSystem.Dictionary
import Mathlib.Data.List.Nodup

namespace LSystem.Dictionary

variable {κ ν : Type} [DecidableEq κ]

theorem get?_eq_some_iff {d : Dictionary κ ν} (h : (d.map Prod.fst).Nodup) {k : κ} {v : ν} :
    d.get? k = some v ↔ (k, v) ∈ d := by
  constructor
  · exact mem_of_get?
  · intro hm
    induction d with
    | nil => simp at hm
    | cons e d ih =>
      obtain ⟨hk, hd⟩ := List.nodup_cons.mp h
      rcases List.mem_cons.mp hm with rfl | hm
      · simp [get?_cons]
      · have hne : e.1 ≠ k := fun he => hk (he ▸ List.mem_map_of_mem hm)
        rw [get?_cons, if_neg hne]
        exact ih hd hm

theorem get?_override (d e : Dictionary κ ν) (k : κ) :
    (d.override e).get? k = (get? e.reverse k).or (d.get? k) := by
  induction e generalizing d with
  | nil => rfl
  | cons p e ih =>
    have hput : (d.put p.1 p.2).get? k = (get? [p] k).or (d.get? k) := by
      by_cases hk : p.1 = k
      · subst hk
        simp [get?_cons]
      · simp [get?_put_of_ne d p.2 (Ne.symm hk), get?_cons, hk]
    change ((d.put p.1 p.2).override e).get? k = _
    rw [ih, hput, List.reverse_cons, get?_append, Option.or_assoc]

theorem mem_put {d : Dictionary κ ν} {k : κ} {v : ν} {e : κ × ν} (h : e ∈ d.put k v) :
    e ∈ d ∨ e = (k, v) := by
  rcases List.mem_append.mp h with h | h
  · exact Or.inl (mem_erase.mp h).1
  · exact Or.inr (List.mem_singleton.mp h)

theorem forall_get?_put {d : Dictionary κ ν} {k : κ} {v : ν} {P : κ → ν → Prop} (hk : P k v)
    (hd : ∀ l w, l ≠ k → d.get? l = some w → P l w) :
    ∀ l w, (d.put k v).get? l = some w → P l w := by
  intro l w hw
  by_cases hl : l = k
  · subst hl
    rw [get?_put_self] at hw
    exact Option.some.inj hw ▸ hk
  · rw [get?_put_of_ne d v hl] at hw
    exact hd l w hl hw

variable {κ' ν' : Type} [DecidableEq κ']

def rename (f : κ → κ') (g : ν → ν') (d : Dictionary κ ν) : Dictionary κ' ν' :=
  d.map fun e => (f e.1, g e.2)

theorem get?_rename {f : κ → κ'} {g : ν → ν'} {d : Dictionary κ ν} {k : κ}
    (h : ∀ e ∈ d, f e.1 = f k → e.1 = k) : (d.rename f g).get? (f k) = (d.get? k).map g := by
  induction d with
  | nil => rfl
  | cons e d ih =>
    have hd := ih fun x hx => h x (by simp [hx])
    change get? ((f e.1, g e.2) :: rename f g d) (f k) = _
    rw [get?_cons, get?_cons, hd]
    by_cases hk : e.1 = k
    · simp [hk]
    · have hf : f e.1 ≠ f k := fun he => hk (h e (by simp) he)
      simp [hk, hf]

theorem rename_put {f : κ → κ'} {g : ν → ν'} {d : Dictionary κ ν} {k : κ} {v : ν}
    (h : ∀ e ∈ d, f e.1 = f k → e.1 = k) :
    (d.put k v).rename f g = (d.rename f g).put (f k) (g v) := by
  have herase : (d.erase k).rename f g = (d.rename f g).erase (f k) := by
    simp only [rename, erase, List.filter_map]
    refine congrArg _ (List.filter_congr fun e he => ?_)
    have hiff : f e.1 = f k ↔ e.1 = k := ⟨h e he, congrArg f⟩
    simp [hiff]
  change ((d.erase k) ++ [(k, v)]).rename f g = (d.rename f g).erase (f k) ++ [(f k, g v)]
  rw [← herase]
  simp [rename]

theorem get?_map_values (g : ν → ν') (d : Dictionary κ ν) (k : κ) :
    get? (d.map fun e => (e.1, g e.2)) k = (d.get? k).map g :=
  get?_rename (f := fun k => k) fun _ _ he => he

end LSystem.Dictionary
