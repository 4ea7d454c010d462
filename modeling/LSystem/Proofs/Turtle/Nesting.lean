import LSystem.Action.Basic
import Mathlib.Data.List.Count

namespace LSystem.Turtle

def deepen? : Nat → Option Action → Option Nat
  | depth, some .push => some (depth + 1)
  | 0, some .pop => none
  | depth + 1, some .pop => some depth
  | depth, _ => some depth

def depthAfter? (depth : Nat) (actions : List (Option Action)) : Option Nat :=
  actions.foldlM deepen? depth

def Sheltered (depth : Nat) (actions : List (Option Action)) : Prop :=
  ∀ u, u <+: actions → u.count (some .pop) ≤ depth + u.count (some .push)

structure Balanced (actions : List (Option Action)) : Prop where
  pops_le : ∀ u, u <+: actions → u.count (some .pop) ≤ u.count (some .push)
  count_eq : actions.count (some .pop) = actions.count (some .push)

def returns : Nat → List (Option Action) → Nat
  | _, [] => 0
  | depth, some .push :: rest => returns (depth + 1) rest
  | 0, some .pop :: rest => returns 0 rest
  | depth + 1, some .pop :: rest => returns depth rest + 1
  | depth, _ :: rest => returns depth rest

variable {d e : Nat} {a : Option Action} {u v : List (Option Action)}

theorem deepen?_eq_some_iff :
    deepen? d a = some e ↔ e + [a].count (some .pop) = d + [a].count (some .push) := by
  rcases a with _ | (_ | _ | _ | _ | _)
  case some.pop => cases d <;> simp [deepen?, eq_comm]
  all_goals simp [deepen?, eq_comm]

theorem deepen?_of_ne (hpush : a ≠ some .push) (hpop : a ≠ some .pop) (d : Nat) :
    deepen? d a = some d := by
  rw [deepen?_eq_some_iff, List.count_singleton, List.count_singleton]
  simp [hpush, hpop]

theorem depthAfter?_cons (d : Nat) (a : Option Action) (u : List (Option Action)) :
    depthAfter? d (a :: u) = (deepen? d a).bind fun d => depthAfter? d u :=
  List.foldlM_cons

theorem depthAfter?_singleton (d : Nat) (a : Option Action) : depthAfter? d [a] = deepen? d a := by
  rw [depthAfter?_cons]
  cases deepen? d a <;> rfl

theorem depthAfter?_append (d : Nat) (u v : List (Option Action)) :
    depthAfter? d (u ++ v) = (depthAfter? d u).bind fun d => depthAfter? d v :=
  List.foldlM_append

theorem sheltered_cons : Sheltered d (a :: u) ↔ ∃ e, deepen? d a = some e ∧ Sheltered e u := by
  constructor
  · intro h
    have hfirst := h [a] (List.prefix_append [a] u)
    obtain ⟨e, he⟩ := Nat.exists_eq_add_of_le hfirst
    have hcount : e + [a].count (some .pop) = d + [a].count (some .push) := by omega
    refine ⟨e, deepen?_eq_some_iff.mpr hcount, fun v hv => ?_⟩
    have hmore := h (a :: v) (List.prefix_cons_inj a |>.mpr hv)
    rw [← List.singleton_append, List.count_append, List.count_append] at hmore
    omega
  · rintro ⟨e, he, h⟩ v hv
    have hcount := deepen?_eq_some_iff.mp he
    rcases List.prefix_cons_iff.mp hv with rfl | ⟨w, rfl, hw⟩
    · exact Nat.zero_le _
    · have hrest := h w hw
      rw [← List.singleton_append, List.count_append, List.count_append]
      omega

theorem depthAfter?_eq_some_iff :
    depthAfter? d u = some e ↔
      Sheltered d u ∧ e + u.count (some .pop) = d + u.count (some .push) := by
  induction u generalizing d with
  | nil =>
    have hnone : Sheltered d [] := by
      intro v hv
      rw [List.prefix_nil.mp hv]
      exact Nat.zero_le _
    simpa [depthAfter?, hnone] using eq_comm
  | cons a u ih =>
    rw [depthAfter?_cons, Option.bind_eq_some_iff, sheltered_cons, ← List.singleton_append,
      List.count_append, List.count_append]
    constructor
    · rintro ⟨m, hm, hrest⟩
      have hcount := deepen?_eq_some_iff.mp hm
      obtain ⟨hsheltered, heq⟩ := ih.mp hrest
      exact ⟨⟨m, hm, hsheltered⟩, by omega⟩
    · rintro ⟨⟨m, hm, hsheltered⟩, heq⟩
      have hcount := deepen?_eq_some_iff.mp hm
      exact ⟨m, hm, ih.mpr ⟨hsheltered, by omega⟩⟩

theorem balanced_iff : Balanced u ↔ depthAfter? 0 u = some 0 := by
  simp only [depthAfter?_eq_some_iff, Sheltered, Nat.zero_add]
  constructor
  · intro h
    exact ⟨h.pops_le, h.count_eq⟩
  · rintro ⟨hpops, hcount⟩
    exact ⟨hpops, hcount⟩

instance (u : List (Option Action)) : Decidable (Balanced u) :=
  decidable_of_iff _ balanced_iff.symm

theorem Balanced.depthAfter?_eq (h : Balanced u) (d : Nat) : depthAfter? d u = some d := by
  rw [depthAfter?_eq_some_iff]
  refine ⟨fun v hv => ?_, by rw [h.count_eq]⟩
  exact Nat.le_trans (h.pops_le v hv) (Nat.le_add_left _ d)

theorem returns_of_depthAfter? (h : depthAfter? d u = some e) :
    returns d u = u.count (some .pop) := by
  induction u generalizing d with
  | nil => rfl
  | cons a u ih =>
    rw [depthAfter?_cons] at h
    obtain ⟨m, hm, hrest⟩ := Option.bind_eq_some_iff.mp h
    have hreturns := ih hrest
    rcases a with _ | (_ | _ | _ | _ | _)
    case some.pop =>
      cases d with
      | zero => cases hm
      | succ d =>
        obtain rfl := Option.some.inj hm
        simp [returns, hreturns]
    all_goals
      obtain rfl := Option.some.inj hm
      simp [returns, hreturns]

end LSystem.Turtle
