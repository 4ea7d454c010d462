import LSystem.Outcome

namespace LSystem

variable {ε ε' α β γ : Type}

theorem exists_of_bind_eq_ok {x : Except ε α} {f : α → Except ε β} {b : β}
    (h : (x >>= f) = .ok b) : ∃ a, x = .ok a ∧ f a = .ok b := by
  cases x with
  | error e => cases h
  | ok a => exact ⟨a, rfl, h⟩

theorem eq_ok_of_mapError_eq_ok {x : Except ε α} {g : ε → ε'} {a : α}
    (h : x.mapError g = .ok a) : x = .ok a := by
  cases x with
  | error e => cases h
  | ok a' => exact congrArg Except.ok (Except.ok.inj h)

theorem exists_of_map_eq_ok {x : Except ε α} {f : α → β} {b : β} (h : x.map f = .ok b) :
    ∃ a, x = .ok a ∧ f a = b := by
  cases x with
  | error e => cases h
  | ok a => exact ⟨a, rfl, Except.ok.inj h⟩

theorem exists_of_mapError_bind_eq_ok {x : Except ε α} {g : ε → ε'} {f : α → Except ε' β} {b : β}
    (h : (x.mapError g >>= f) = .ok b) : ∃ a, x = .ok a ∧ f a = .ok b := by
  obtain ⟨a, ha, hf⟩ := exists_of_bind_eq_ok h
  exact ⟨a, eq_ok_of_mapError_eq_ok ha, hf⟩

theorem of_guard_eq_ok {c : Prop} [Decidable c] {e : ε} {f : Unit → Except ε β} {b : β}
    (h : (if c then throw e >>= f else f ()) = .ok b) : ¬c ∧ f () = .ok b := by
  split at h
  · cases h
  · next hc => exact ⟨hc, h⟩

theorem bind_eq_map_bind {x : Except ε α} {f : β → γ} {g : α → Except ε γ} {h : α → Except ε β}
    (hg : ∀ a, g a = (h a).map f) : (x >>= g) = (x >>= h).map f := by
  cases x with
  | error e => rfl
  | ok a => exact hg a

theorem guard_eq_map_guard {c : Prop} [Decidable c] {e : ε} {f : β → γ} {g : Unit → Except ε γ}
    {h : Unit → Except ε β} (hg : g () = (h ()).map f) :
    (if c then throw e >>= g else g ()) = (if c then throw e >>= h else h ()).map f := by
  split
  · rfl
  · exact hg

theorem toOption_eq_some_iff {x : Except ε α} {a : α} : x.toOption = some a ↔ x = .ok a := by
  cases x with
  | error e => exact ⟨nofun, nofun⟩
  | ok a' => exact ⟨fun h => congrArg Except.ok (Option.some.inj h),
      fun h => congrArg some (Except.ok.inj h)⟩

end LSystem
