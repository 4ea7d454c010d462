import LSystem.Expansion.Growth
import LSystem.Proofs.Dictionary
import Mathlib.Logic.Function.Iterate

namespace LSystem

abbrev Productions (α : Type) := Dictionary α (List α)

namespace Productions

variable {α β : Type} [DecidableEq α] [DecidableEq β]

def has (p : Productions α) (x : α) : Bool :=
  (p.get? x).isSome

def production (p : Productions α) (x : α) : List α :=
  (p.get? x).getD [x]

def rewrite (p : Productions α) (xs : List α) : List α :=
  xs.flatMap p.production

def grow (p : Productions α) (limit : Option Int) (number : Nat) :
    Nat → List α → Except GrowthError (List α)
  | 0, xs => .ok xs
  | left + 1, xs =>
    if !xs.any p.has then .ok xs
    else
      match limit.filter fun l => l < ((p.rewrite xs).length : Int) with
      | some l => .error ⟨(p.rewrite xs).length, l, number⟩
      | none => grow p limit (number + 1) left (p.rewrite xs)

theorem production_of_has_eq_false {p : Productions α} {x : α} (h : p.has x = false) :
    p.production x = [x] := by
  simp_all [has, production]

theorem production_eq_of_get? {p : Productions α} {x : α} {xs : List α}
    (h : p.get? x = some xs) : p.production x = xs := by
  simp [production, h]

theorem rewrite_eq_self {p : Productions α} {xs : List α} (h : xs.any p.has = false) :
    p.rewrite xs = xs := by
  induction xs with
  | nil => rfl
  | cons x xs ih =>
    simp only [List.any_cons, Bool.or_eq_false_iff] at h
    change p.production x ++ p.rewrite xs = x :: xs
    rw [production_of_has_eq_false h.1, ih h.2]
    rfl

theorem grow_nil (p : Productions α) (limit : Option Int) (number left : Nat) :
    p.grow limit number left [] = .ok [] := by
  cases left <;> rfl

theorem grow_none (p : Productions α) (number left : Nat) (xs : List α) :
    p.grow none number left xs = .ok (p.rewrite^[left] xs) := by
  induction left generalizing number xs with
  | zero => rfl
  | succ left ih =>
    rw [grow, Function.iterate_succ_apply]
    by_cases h : xs.any p.has = true
    · simp [h, ih]
    · have hfalse := Bool.eq_false_iff.mpr h
      simp [hfalse, rewrite_eq_self hfalse, Function.iterate_fixed (rewrite_eq_self hfalse)]

def Within (p : Productions α) (known : α → Prop) : Prop :=
  ∀ e ∈ p, known e.1 ∧ ∀ x ∈ e.2, known x

theorem Within.put {p : Productions α} {known : α → Prop} (h : p.Within known) {x : α}
    {xs : List α} (hx : known x) (hxs : ∀ y ∈ xs, known y) :
    Within (p.put x xs) known := by
  intro e he
  rcases Dictionary.mem_put he with he | rfl
  · exact h e he
  · exact ⟨hx, hxs⟩

theorem Within.production {p : Productions α} {known : α → Prop} (h : p.Within known) {x : α}
    (hx : known x) : ∀ y ∈ p.production x, known y := by
  intro y hy
  cases hp : p.get? x with
  | none => simp_all [Productions.production]
  | some xs =>
    rw [production_eq_of_get? hp] at hy
    exact (h _ (Dictionary.mem_of_get? hp)).2 y hy

theorem Within.rewrite {p : Productions α} {known : α → Prop} (h : p.Within known) {xs : List α}
    (hxs : ∀ x ∈ xs, known x) : ∀ y ∈ p.rewrite xs, known y := by
  intro y hy
  obtain ⟨x, hx, hy⟩ := List.mem_flatMap.mp hy
  exact h.production (hxs x hx) y hy

theorem Within.grow {p : Productions α} {known : α → Prop} (h : p.Within known)
    {limit : Option Int} {number left : Nat} {xs ys : List α} (hxs : ∀ x ∈ xs, known x)
    (hg : p.grow limit number left xs = .ok ys) : ∀ y ∈ ys, known y := by
  induction left generalizing number xs with
  | zero =>
    obtain rfl : xs = ys := Except.ok.inj hg
    exact hxs
  | succ left ih =>
    rw [Productions.grow] at hg
    split at hg
    · obtain rfl : xs = ys := Except.ok.inj hg
      exact hxs
    · split at hg
      · cases hg
      · exact ih (h.rewrite hxs) hg

section

def rename (f : α → β) (p : Productions α) : Productions β :=
  Dictionary.rename f (List.map f) p

variable {f : α → β} {known : α → Prop} (hf : ∀ x y, known x → known y → f x = f y → x = y)

include hf

theorem get?_rename {p : Productions α} (h : p.Within known) {x : α} (hx : known x) :
    (p.rename f).get? (f x) = (p.get? x).map (List.map f) :=
  Dictionary.get?_rename fun e he hfe => hf e.1 x (h e he).1 hx hfe

theorem has_rename {p : Productions α} (h : p.Within known) {x : α} (hx : known x) :
    (p.rename f).has (f x) = p.has x := by
  simp [has, get?_rename hf h hx]

theorem production_rename {p : Productions α} (h : p.Within known) {x : α} (hx : known x) :
    (p.rename f).production (f x) = (p.production x).map f := by
  rw [production, production, get?_rename hf h hx]
  cases p.get? x <;> rfl

theorem rewrite_rename {p : Productions α} (h : p.Within known) {xs : List α}
    (hxs : ∀ x ∈ xs, known x) : (p.rename f).rewrite (xs.map f) = (p.rewrite xs).map f := by
  induction xs with
  | nil => rfl
  | cons x xs ih =>
    have hx := production_rename hf h (hxs x (by simp))
    have ih := ih fun y hy => hxs y (by simp [hy])
    change (p.rename f).production (f x) ++ (p.rename f).rewrite (xs.map f) = _
    rw [hx, ih, ← List.map_append]
    rfl

theorem any_has_rename {p : Productions α} (h : p.Within known) {xs : List α}
    (hxs : ∀ x ∈ xs, known x) : (xs.map f).any (p.rename f).has = xs.any p.has := by
  induction xs with
  | nil => rfl
  | cons x xs ih =>
    have ih := ih fun y hy => hxs y (by simp [hy])
    rw [List.map_cons, List.any_cons, List.any_cons, has_rename hf h (hxs x (by simp)), ih]

theorem grow_rename {p : Productions α} (h : p.Within known) (limit : Option Int)
    (number left : Nat) {xs : List α} (hxs : ∀ x ∈ xs, known x) :
    (p.rename f).grow limit number left (xs.map f)
      = (p.grow limit number left xs).map (List.map f) := by
  induction left generalizing number xs with
  | zero => rfl
  | succ left ih =>
    have hnext := rewrite_rename hf h hxs
    rw [grow, grow, any_has_rename hf h hxs, hnext, List.length_map, ih _ (h.rewrite hxs)]
    split
    · rfl
    · split <;> rfl

end

end Productions

end LSystem
