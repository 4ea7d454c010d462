import LSystem.Wavefront
import Mathlib.Data.Nat.Digits.Defs

namespace LSystem

namespace Decimal

variable {places : Nat} {x : Float} {d : Dyadic}

theorem unread?_eq_none_iff :
    unread? places x = none
      ↔ ∀ d, magnitude x = .finite d → isNegative x = true →
          isRead places (d.units places) = true := by
  rw [unread?]
  cases magnitude x with
  | finite d => simp
  | infinite => simp
  | undefined => simp

theorem exponent_le_of_magnitudeOfBits {bits : Nat} (h : magnitudeOfBits bits = .finite d) :
    d.exponent ≤ 971 := by
  simp only [magnitudeOfBits] at h
  split at h
  · split at h <;> cases h
  · split at h <;> (obtain rfl := Magnitude.finite.inj h; dsimp only; omega)

theorem roundDiv_le_succ (num den : Nat) : roundDiv num den ≤ num + 1 := by
  have hdiv := Nat.div_le_self num den
  rcases roundDiv_cases num den with ⟨h, -⟩ | ⟨h, -⟩ <;> omega

theorem numerator_lt {k : Nat} (h : magnitude x = .finite d) (hk : d.exponent ≤ k) (places : Nat) :
    d.numerator places < 2 ^ (53 + k) * 10 ^ places := by
  have hmantissa : d.mantissa < 2 ^ 53 := (magnitudeOfBits_bounds h).1
  have hpower : Nat.pow 2 d.exponent.toNat ≤ 2 ^ k :=
    Nat.pow_le_pow_right (by decide) (by omega)
  have hwhole : d.mantissa * Nat.pow 2 d.exponent.toNat < 2 ^ 53 * 2 ^ k :=
    Nat.mul_lt_mul_of_lt_of_le hmantissa hpower (Nat.pow_pos (by decide))
  rw [← Nat.pow_add] at hwhole
  exact Nat.mul_lt_mul_of_pos_right hwhole (Nat.pow_pos (by decide))

theorem units_lt {k : Nat} (h : magnitude x = .finite d) (hk : d.exponent ≤ k) (places : Nat) :
    d.units places < 10 ^ (53 + k + places) :=
  calc d.units places
      ≤ d.numerator places + 1 := roundDiv_le_succ _ _
    _ ≤ 2 ^ (53 + k) * 10 ^ places := numerator_lt h hk places
    _ < 10 ^ (53 + k) * 10 ^ places :=
      Nat.mul_lt_mul_of_pos_right (Nat.pow_lt_pow_left (by decide) (by omega))
        (Nat.pow_pos (by decide))
    _ = 10 ^ (53 + k + places) := (Nat.pow_add 10 (53 + k) places).symm

theorem isRead_units (h : magnitude x = .finite d) (hplaces : 1024 + places ≤ maxRealDigits) :
    isRead places (d.units places) = true := by
  have hlt := units_lt (k := 971) h (exponent_le_of_magnitudeOfBits h) places
  have hdigits := Nat.toDigits_length 10 _ _ (by omega) hlt
  rw [isRead, Bool.and_eq_true, decide_eq_true_iff, decide_eq_true_iff]
  exact ⟨by omega, hdigits.trans hplaces⟩

theorem isRead_eq_false_of_lt {n : Nat} (h : maxRealDigits < places) : isRead places n = false := by
  rw [isRead, decide_eq_false (Nat.not_le.mpr h), Bool.false_and]

end Decimal

namespace Wavefront

variable {t : Trace Float} {places : Nat}

def Writable (t : Trace Float) (places : Nat) : Prop :=
  t.pointCount = 0 ∨ places ≤ maxPlaces ∧ ∀ x ∈ coordinates t, ∀ d,
    Decimal.magnitude x = .finite d → Decimal.isNegative x = true →
      Decimal.isRead places (d.units places) = true

theorem coordinates_of_pointCount (h : t.pointCount = 0) : coordinates t = [] := by
  have hcoords : t.coords = #[] := Array.size_eq_zero_iff.mp h
  rw [coordinates, hcoords]
  rfl

theorem fault?_eq_none_iff : fault? t places = none ↔ Writable t places := by
  have hread : (coordinates t).findSome? (Decimal.unread? places) = none
      ↔ ∀ x ∈ coordinates t, ∀ d, Decimal.magnitude x = .finite d → Decimal.isNegative x = true →
          Decimal.isRead places (d.units places) = true := by
    simp only [List.findSome?_eq_none_iff, Decimal.unread?_eq_none_iff]
  simp only [fault?, Bool.and_eq_true, decide_eq_true_eq]
  split
  · next hmany =>
    simp only [reduceCtorEq, false_iff]
    rintro (hempty | ⟨hfew, -⟩) <;> omega
  · next hfew =>
    rw [Option.map_eq_none_iff, hread]
    constructor
    · intro hall
      by_cases hempty : t.pointCount = 0
      · exact Or.inl hempty
      · exact Or.inr ⟨by omega, hall⟩
    · rintro (hempty | ⟨-, hall⟩)
      · rw [coordinates_of_pointCount hempty]
        nofun
      · exact hall

theorem exists_fault?_of_negative {x : Float} {d : Decimal.Dyadic} (hx : x ∈ coordinates t)
    (hd : Decimal.magnitude x = .finite d) (hnegative : Decimal.isNegative x = true)
    (hlong : Decimal.maxRealDigits < places) (hfew : places ≤ maxPlaces) :
    ∃ s, fault? t places = some (.mismatch (.notReal s)) := by
  have hmany : (maxPlaces < places && 0 < t.pointCount) = false := by
    rw [decide_eq_false (Nat.not_lt.mpr hfew), Bool.false_and]
  rw [fault?, hmany]
  cases hread : (coordinates t).findSome? (Decimal.unread? places) with
  | some s => exact ⟨s, rfl⟩
  | none =>
    have hback := Decimal.unread?_eq_none_iff.mp
      (List.findSome?_eq_none_iff.mp hread x hx) d hd hnegative
    rw [Decimal.isRead_eq_false_of_lt hlong] at hback
    cases hback

theorem writable_of_le (h : 1024 + places ≤ Decimal.maxRealDigits) : Writable t places := by
  have hmax : places ≤ maxPlaces := by
    simp only [maxPlaces, Decimal.maxRealDigits] at h ⊢
    omega
  exact Or.inr ⟨hmax, fun x _ d hd _ => Decimal.isRead_units hd h⟩

theorem exists_linesWith_iff {n : Int} (hn : 0 ≤ n) (t : Trace Float) (name : Option String) :
    (∃ ls, linesWith t (.int n) name = .ok ls) ↔ Writable t n.toNat := by
  rw [linesWith_int hn, ← fault?_eq_none_iff]
  cases fault? t n.toNat <;> simp

end Wavefront

end LSystem
