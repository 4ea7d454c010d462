import LSystem.Decimal.Fixed
import LSystem.Proofs.Decimal.Doubles
import Mathlib.Tactic.FieldSimp
import Mathlib.Tactic.Linarith

namespace LSystem.Decimal

def step (places : Nat) : ℚ := (10 ^ places)⁻¹

theorem step_pos (places : Nat) : 0 < step places := by
  unfold step
  positivity

/-- No multiple of `s` is nearer to `v` than `k * s`, and `k` is even if another one is as near. -/
structure Nearest (s v : ℚ) (k : ℤ) : Prop where
  closest (m : ℤ) : |k * s - v| ≤ |m * s - v|
  even {m : ℤ} (hm : m ≠ k) (htie : |m * s - v| = |k * s - v|) : Even k

section Rounding

variable {s y v : ℚ} {k : ℤ} {num den : Nat}

theorem nearest_of_abs_le (hs : 0 < s) (hhalf : |k - y| ≤ 1 / 2)
    (heven : |k - y| = 1 / 2 → Even k) : Nearest s (y * s) k := by
  have hscale (m : ℤ) : |m * s - y * s| = |m - y| * s := by
    rw [← sub_mul, abs_mul, abs_of_pos hs]
  have hfar {m : ℤ} (hm : m ≠ k) : 1 ≤ |(m : ℚ) - y| + |k - y| := by
    have hone : (1 : ℚ) ≤ |(m : ℚ) - k| := by
      exact_mod_cast Int.one_le_abs (sub_ne_zero.mpr hm)
    calc (1 : ℚ) ≤ |(m : ℚ) - k| := hone
      _ = |(m - y) - (k - y)| := by rw [sub_sub_sub_cancel_right]
      _ ≤ |(m : ℚ) - y| + |k - y| := abs_sub _ _
  refine ⟨fun m => ?_, fun {m} hm htie => heven ?_⟩
  · rw [hscale, hscale]
    apply mul_le_mul_of_nonneg_right _ hs.le
    by_cases hm : m = k
    · rw [hm]
    · have := hfar hm
      linarith
  · rw [hscale, hscale] at htie
    have hsame := mul_right_cancel₀ hs.ne' htie
    have := hfar hm
    linarith

theorem Nearest.neg (h : Nearest s v k) : Nearest s (-v) (-k) := by
  have hmirror (m : ℤ) : |((-m : ℤ) : ℚ) * s - v| = |m * s - -v| := by
    rw [← abs_neg, Int.cast_neg, neg_mul, neg_sub', neg_neg]
  refine ⟨fun m => ?_, fun {m} hm htie => ?_⟩
  · rw [← hmirror, ← hmirror, neg_neg]
    exact h.closest (-m)
  · rw [← hmirror, ← hmirror, neg_neg] at htie
    exact (h.even (fun heq => hm (by omega)) htie).neg

theorem Nearest.mul_signed (h : Nearest s v k) (negative : Bool) :
    Nearest s (signed negative * v) (signed negative * k) := by
  cases negative with
  | false => simpa [signed] using h
  | true => simpa [signed] using h.neg

theorem nearest_roundDiv (hs : 0 < s) (hden : 0 < den) :
    Nearest s (num / den * s) (roundDiv num den) := by
  have hpos : (0 : ℚ) < den := Nat.cast_pos.mpr hden
  have hgap : |(roundDiv num den : ℚ) - num / den|
      = |(roundDiv num den : ℚ) * den - num| / den := by
    calc |(roundDiv num den : ℚ) - num / den|
        = |((roundDiv num den : ℚ) * den - num) / den| := by
          rw [sub_div, mul_div_cancel_right₀ _ hpos.ne']
      _ = |(roundDiv num den : ℚ) * den - num| / den := by rw [abs_div, abs_of_pos hpos]
  have hup : (2 * (roundDiv num den * den) : ℚ) ≤ 2 * num + den := by
    exact_mod_cast two_mul_roundDiv_le num den
  have hdown : (2 * num : ℚ) ≤ 2 * (roundDiv num den * den) + den := by
    exact_mod_cast two_mul_le_roundDiv hden
  apply nearest_of_abs_le hs
  · rw [Int.cast_natCast, hgap, div_le_iff₀ hpos, abs_le]
    constructor <;> linarith
  · rw [Int.cast_natCast, hgap, div_eq_iff hpos.ne']
    intro htie
    have htie : (2 * (roundDiv num den * den) : ℚ) = 2 * num + den
        ∨ (2 * num : ℚ) = 2 * (roundDiv num den * den) + den := by
      rcases (abs_eq (by positivity)).mp htie with h | h
      · exact Or.inl (by linarith)
      · exact Or.inr (by linarith)
    have heven := roundDiv_even_of_tie hden (by exact_mod_cast htie)
    exact (Int.even_coe_nat _).mpr (Nat.even_iff.mpr heven)

end Rounding

namespace Dyadic

theorem value_eq (d : Dyadic) (places : Nat) :
    d.value = d.numerator places / d.denominator places * step places := by
  have hpower : (2 : ℚ) ^ d.exponent = 2 ^ d.exponent.toNat / 2 ^ (-d.exponent).toNat := by
    rw [eq_div_iff (by positivity), ← zpow_natCast, ← zpow_natCast, ← zpow_add₀ two_ne_zero]
    congr 1
    omega
  have hplaces : (-(places : ℤ)).toNat = 0 := by omega
  simp only [value, numerator, denominator, step, hpower, hplaces, Int.toNat_natCast, Nat.pow_eq]
  push_cast
  rw [mul_one, mul_div_right_comm, mul_inv_cancel_right₀ (by positivity), mul_div_assoc]

theorem nearest_units (d : Dyadic) (places : Nat) :
    Nearest (step places) d.value (d.units places) := by
  rw [d.value_eq places]
  exact nearest_roundDiv (step_pos places) (d.denominator_pos places)

end Dyadic

theorem mul_pow_le_iff (places n bits : Nat) :
    n * Nat.pow 2 bits ≤ Nat.pow 10 places ↔ n * step places ≤ 2 ^ (-bits : ℤ) := by
  rw [step, ← div_eq_mul_inv, zpow_neg, zpow_natCast, ← one_div,
    div_le_div_iff₀ (by positivity) (by positivity), one_mul]
  exact_mod_cast Iff.rfl

theorem readsAsZero_iff_le {places n : Nat} :
    readsAsZero places n = true ↔ n * step places ≤ 2 ^ (-1075 : ℤ) := by
  simp only [readsAsZero, decide_eq_true_iff, mul_pow_le_iff, Nat.cast_ofNat]

theorem least_eq : (2 : ℚ) ^ (-1074 : ℤ) = 2 * 2 ^ (-1075 : ℤ) := by
  rw [← zpow_one_add₀ two_ne_zero]
  rfl

section ReadsAsZero

variable {places n : Nat}

theorem abs_signed_mul_step (negative : Bool) :
    |signed negative * (n * step places)| = n * step places := by
  rw [abs_mul, abs_signed, one_mul, abs_of_nonneg (mul_nonneg n.cast_nonneg (step_pos places).le)]

/-- A text reads back as zero if no double is nearer to it. Where the least double is as near, zero
is the even one of the two. -/
theorem readsAsZero_iff_nearest (negative : Bool) :
    readsAsZero places n = true ↔ ∀ {y : Float} {w : ℚ}, value? y = some w →
      |signed negative * (n * step places) - 0| ≤ |signed negative * (n * step places) - w| := by
  rw [readsAsZero_iff_le, sub_zero]
  constructor
  · intro hle y w hy
    by_cases hw : w = 0
    · rw [hw, sub_zero]
    · have hleast := least_le_abs hy hw
      have htriangle := abs_sub_abs_le_abs_sub w (signed negative * (n * step places))
      rw [least_eq] at hleast
      rw [abs_sub_comm, abs_signed_mul_step] at htriangle
      rw [abs_signed_mul_step]
      linarith
  · intro h
    obtain ⟨y, hy⟩ := exists_least negative
    have hleast := h hy
    rw [abs_signed_mul_step, ← mul_sub, abs_mul, abs_signed, one_mul, least_eq] at hleast
    rcases le_abs.mp hleast with hfar | hnear
    · have hhalf : (0 : ℚ) < 2 ^ (-1075 : ℤ) := by positivity
      linarith
    · linarith

theorem Nearest.abs_sub_lt {s v : ℚ} {k : ℤ} (h : Nearest s v k) (hv : 0 ≤ v)
    (hpos : 0 < k * s) : |k * s - v| < k * s := by
  apply abs_lt.mpr
  constructor
  · by_contra hlt
    have hclosest := h.closest (2 * k)
    push_cast at hclosest
    rw [abs_of_nonpos (by linarith), abs_of_nonpos (by linarith)] at hclosest
    linarith
  · by_contra hlt
    have hclosest := h.closest 0
    rw [abs_of_nonneg (by linarith), Int.cast_zero, zero_mul, zero_sub, abs_neg,
      abs_of_nonneg hv] at hclosest
    linarith

theorem readsAsZero_units_iff {x : Float} {d : Dyadic} (hd : magnitude x = .finite d) :
    readsAsZero places (d.units places) = true ↔ d.units places = 0 := by
  constructor
  · intro hzero
    by_contra hunits
    have hpos : 0 < d.units places * step places :=
      mul_pos (Nat.cast_pos.mpr (Nat.pos_of_ne_zero hunits)) (step_pos places)
    have hnearer := (d.nearest_units places).abs_sub_lt d.value_nonneg hpos
    have hnearest := (readsAsZero_iff_nearest (isNegative x)).mp hzero (value?_of_magnitude hd)
    rw [sub_zero, abs_signed_mul_step, ← mul_sub, abs_mul, abs_signed, one_mul] at hnearest
    exact absurd hnearer (not_lt.mpr hnearest)
  · intro hunits
    rw [hunits, readsAsZero_iff_le, Nat.cast_zero, zero_mul]
    positivity

end ReadsAsZero

end LSystem.Decimal
