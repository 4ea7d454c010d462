import LSystem.Decimal.Binary
import Mathlib.Algebra.Order.Field.Power
import Mathlib.Data.Rat.Cast.Order
import Mathlib.Tactic.Positivity

namespace LSystem.Decimal

open Float.Model UnpackedFloat

def value? (x : Float) : Option ℚ :=
  match x.toModel.unpack with
  | .finite sign mantissa exponent _ => some (sign.apply mantissa * 2 ^ exponent)
  | .zero _ => some 0
  | .infinity _ => none
  | .notANumber => none

def Dyadic.value (d : Dyadic) : ℚ := d.mantissa * 2 ^ d.exponent

def signed (negative : Bool) : ℤ := if negative then -1 else 1

section Fields

variable (x : Float)

theorem toNat_unpackMantissa :
    (@unpackMantissa .binary64 x.toModel.toBits.toBitVec).toNat
      = x.toBits.toNat % leastNormal := by
  change (x.toBits.toBitVec.extractLsb 51 0).toNat = _
  rw [BitVec.extractLsb_toNat, Nat.shiftRight_zero, UInt64.toNat_toBitVec]
  rfl

theorem toNat_unpackExponent :
    (@unpackExponent .binary64 x.toModel.toBits.toBitVec).toNat
      = x.toBits.toNat / leastNormal % 2048 := by
  change (x.toBits.toBitVec.extractLsb 62 52).toNat = _
  rw [BitVec.extractLsb_toNat, Nat.shiftRight_eq_div_pow, UInt64.toNat_toBitVec]
  rfl

theorem toNat_unpackSign :
    (@unpackSign .binary64 x.toModel.toBits.toBitVec).toNat
      = x.toBits.toNat / (2048 * leastNormal) % 2 := by
  change (x.toBits.toBitVec.extractLsb 63 63).toNat = _
  rw [BitVec.extractLsb_toNat, Nat.shiftRight_eq_div_pow, UInt64.toNat_toBitVec]
  rfl

theorem apply_unpackSign (n : ℤ) :
    (Sign.ofBitVec (@unpackSign .binary64 x.toModel.toBits.toBitVec)).apply n
      = signed (isNegative x) * n := by
  have hlt := x.toBits.toNat_lt
  have hzero : @unpackSign .binary64 x.toModel.toBits.toBitVec = 0#1
      ↔ isNegative x = false := by
    rw [← BitVec.toNat_inj, toNat_unpackSign, isNegative, decide_eq_false_iff_not]
    simp only [leastNormal, BitVec.toNat_ofNat]
    omega
  rw [Sign.ofBitVec, signed]
  cases hnegative : isNegative x with
  | false => simp [hzero.mpr hnegative, Sign.apply]
  | true => simp [mt hzero.mp (by simp [hnegative]), Sign.apply]

end Fields

theorem toNat_one_append (m : BitVec 52) : (1#1 ++ m).toNat = leastNormal + m.toNat := by
  rw [BitVec.toNat_append, ← Nat.shiftLeft_add_eq_or_of_lt m.isLt]
  rfl

theorem toNat_one_append_pos (m : BitVec 52) : 0 < (1#1 ++ m).toNat := by
  rw [toNat_one_append]
  exact Nat.add_pos_left (by decide) m.toNat

theorem toNat_pos_of_ne_zero {m : BitVec 52} (h : m ≠ 0#52) : 0 < m.toNat :=
  Nat.pos_of_ne_zero fun hzero => h (BitVec.eq_of_toNat_eq hzero)

theorem unpack_eq (b : BitVec 64) :
    UnpackedFloat.unpack .binary64 b =
      let m := @unpackMantissa .binary64 b
      let e := @unpackExponent .binary64 b
      let sign := Sign.ofBitVec (@unpackSign .binary64 b)
      if e = -1#11 then if m = 0#52 then .infinity sign else .notANumber
      else if e = 0#11 then
        if h : m = 0#52 then .zero sign
        else .finite sign m.toNat (e.toNat - 1075 + 1) (toNat_pos_of_ne_zero h)
      else .finite sign (1#1 ++ m).toNat (e.toNat - 1075) (toNat_one_append_pos m) :=
  rfl

theorem value?_eq (x : Float) :
    value? x = match magnitude x with
      | .finite d => some (signed (isNegative x) * d.value)
      | .infinite => none
      | .undefined => none := by
  have hsign := apply_unpackSign x
  rw [value?, Float.Model.unpack, unpack_eq, magnitude, magnitudeOfBits, ← toNat_unpackMantissa,
    ← toNat_unpackExponent]
  generalize @unpackMantissa .binary64 x.toModel.toBits.toBitVec = m
  generalize @unpackExponent .binary64 x.toModel.toBits.toBitVec = e
  generalize Sign.ofBitVec (@unpackSign .binary64 x.toModel.toBits.toBitVec) = sign at hsign
  dsimp only
  by_cases hlast : e = -1#11
  · have he : e.toNat = 2047 := congrArg BitVec.toNat hlast
    rw [if_pos hlast, if_pos he]
    by_cases hm : m = 0#52
    · have hzero : m.toNat = 0 := congrArg BitVec.toNat hm
      rw [if_pos hm, if_pos hzero]
    · rw [if_neg hm, if_neg (toNat_pos_of_ne_zero hm).ne']
  · have he : e.toNat ≠ 2047 := fun h => hlast (BitVec.eq_of_toNat_eq h)
    rw [if_neg hlast, if_neg he]
    by_cases hfirst : e = 0#11
    · have he : e.toNat = 0 := congrArg BitVec.toNat hfirst
      rw [if_pos hfirst, if_pos he, he]
      by_cases hm : m = 0#52
      · rw [dif_pos hm]
        simp [Dyadic.value, hm]
      · rw [dif_neg hm]
        dsimp only [Dyadic.value]
        rw [hsign, Int.cast_mul, Int.cast_natCast, mul_assoc]
        rfl
    · have he : e.toNat ≠ 0 := fun h => hfirst (BitVec.eq_of_toNat_eq h)
      rw [if_neg hfirst, if_neg he]
      dsimp only [Dyadic.value]
      rw [hsign, toNat_one_append, Int.cast_mul, Int.cast_natCast, mul_assoc]

theorem exists_magnitude_of_value? {x : Float} {v : ℚ} (h : value? x = some v) :
    ∃ d, magnitude x = .finite d ∧ v = signed (isNegative x) * d.value := by
  rw [value?_eq] at h
  cases hx : magnitude x with
  | finite d =>
    rw [hx] at h
    exact ⟨d, rfl, (Option.some.inj h).symm⟩
  | infinite =>
    rw [hx] at h
    cases h
  | undefined =>
    rw [hx] at h
    cases h

theorem abs_signed (negative : Bool) : |(signed negative : ℚ)| = 1 := by
  cases negative <;> simp [signed]

namespace Dyadic

variable {d : Dyadic}

theorem value_nonneg (d : Dyadic) : 0 ≤ d.value := by
  unfold value
  positivity

theorem value_eq_zero_iff : d.value = 0 ↔ d.mantissa = 0 := by
  simp [value, zpow_ne_zero]

theorem least_le_value (hexponent : -1074 ≤ d.exponent) (hmantissa : d.mantissa ≠ 0) :
    2 ^ (-1074 : ℤ) ≤ d.value := by
  have hone : (1 : ℚ) ≤ d.mantissa := by exact_mod_cast Nat.one_le_iff_ne_zero.mpr hmantissa
  calc (2 : ℚ) ^ (-1074 : ℤ)
      ≤ 2 ^ d.exponent := zpow_le_zpow_right₀ one_le_two hexponent
    _ ≤ d.mantissa * 2 ^ d.exponent := le_mul_of_one_le_left (by positivity) hone

end Dyadic

theorem least_le_abs {x : Float} {v : ℚ} (h : value? x = some v) (hv : v ≠ 0) :
    2 ^ (-1074 : ℤ) ≤ |v| := by
  obtain ⟨d, hd, rfl⟩ := exists_magnitude_of_value? h
  have hmantissa : d.mantissa ≠ 0 := fun hzero =>
    right_ne_zero_of_mul hv (Dyadic.value_eq_zero_iff.mpr hzero)
  rw [abs_mul, abs_signed, one_mul, abs_of_nonneg d.value_nonneg]
  exact Dyadic.least_le_value (magnitudeOfBits_bounds hd).2 hmantissa

theorem value?_of_magnitude {x : Float} {d : Dyadic} (h : magnitude x = .finite d) :
    value? x = some (signed (isNegative x) * d.value) := by
  rw [value?_eq, h]

theorem exists_least (negative : Bool) :
    ∃ x : Float, value? x = some (signed negative * (2 : ℚ) ^ (-1074 : ℤ)) := by
  have hvalue : Dyadic.value ⟨1, -1074⟩ = 2 ^ (-1074 : ℤ) := by
    simp only [Dyadic.value, Nat.cast_one, one_mul]
  rw [← hvalue]
  cases negative with
  | false => exact ⟨Float.ofBits 1, value?_of_magnitude (by decide)⟩
  | true => exact ⟨Float.ofBits 9223372036854775809, value?_of_magnitude (by decide)⟩

end LSystem.Decimal
