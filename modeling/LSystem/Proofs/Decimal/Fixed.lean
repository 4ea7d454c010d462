import LSystem.Proofs.Decimal.Nearest

namespace LSystem.Decimal

structure Numeral where
  negative : Bool
  whole : List Char
  fraction : List Char

namespace Numeral

def text (n : Numeral) : List Char :=
  (if n.negative then ['-'] else []) ++ n.whole
    ++ if n.fraction.isEmpty then [] else '.' :: n.fraction

def units (n : Numeral) : ℤ :=
  signed n.negative * Nat.ofDigitChars 10 (n.whole ++ n.fraction) 0

def value (n : Numeral) : ℚ := n.units * step n.fraction.length

structure Proper (places : Nat) (n : Numeral) : Prop where
  digits : ∀ c ∈ n.whole ++ n.fraction, c.isDigit = true
  whole_ne_nil : n.whole ≠ []
  leading_zero : n.whole.head? = some '0' → n.whole = ['0']
  length_fraction : n.fraction.length = places

theorem Proper.head?_text {places : Nat} {n : Numeral} (h : n.Proper places) :
    n.text.head? = some '-' ↔ n.negative = true := by
  obtain ⟨c, rest, hwhole⟩ := List.exists_cons_of_ne_nil h.whole_ne_nil
  have hdigit : c.isDigit = true := h.digits c (by simp [hwhole])
  have hne : c ≠ '-' := by
    rintro rfl
    cases hdigit
  rw [text, hwhole]
  cases n.negative with
  | false => simp [hne]
  | true => simp

end Numeral

def padded (places n : Nat) : List Char :=
  List.replicate (places + 1 - (Nat.toDigits 10 n).length) '0' ++ Nat.toDigits 10 n

section Padded

variable {places n : Nat}

theorem isDigit_of_mem_padded {c : Char} (h : c ∈ padded places n) : c.isDigit = true := by
  rcases List.mem_append.mp h with h | h
  · rw [List.eq_of_mem_replicate h]
    rfl
  · exact Nat.isDigit_of_mem_toDigits (by decide) (by decide) h

theorem length_padded (places n : Nat) :
    (padded places n).length = max (places + 1) (Nat.toDigits 10 n).length := by
  rw [padded, List.length_append, List.length_replicate]
  omega

theorem ofDigitChars_padded : Nat.ofDigitChars 10 (padded places n) 0 = n := by
  rw [padded, Nat.ofDigitChars_append, Nat.ofDigitChars_replicate_zero, Nat.mul_zero,
    Nat.ofDigitChars_ten_toDigits]

theorem eq_zero_of_head?_toDigits (h : (Nat.toDigits 10 n).head? = some '0') : n = 0 := by
  induction n using Nat.strongRecOn with
  | ind n ih =>
    rcases Nat.lt_or_ge n 10 with hlt | hge
    · have hdigit : ∀ m < 10, [Nat.digitChar m].head? = some '0' → m = 0 := by decide
      rw [Nat.toDigits_of_lt_base hlt] at h
      exact hdigit n hlt h
    · rw [Nat.toDigits_of_base_le (by decide) hge,
        List.head?_append_of_ne_nil _ Nat.toDigits_ne_nil] at h
      have := ih (n / 10) (by omega) h
      omega

theorem length_padded_of_head? (h : (padded places n).head? = some '0') :
    (padded places n).length = places + 1 := by
  rw [length_padded]
  by_cases hlong : places + 1 ≤ (Nat.toDigits 10 n).length
  · -- no zeros are put in front
    rw [padded, Nat.sub_eq_zero_of_le hlong] at h
    have hzero := eq_zero_of_head?_toDigits h
    rw [hzero, Nat.toDigits_zero]
    simp
  · omega

end Padded

def Numeral.ofUnits (negative : Bool) (places n : Nat) : Numeral where
  negative
  whole := (padded places n).take ((padded places n).length - places)
  fraction := (padded places n).drop ((padded places n).length - places)

section OfUnits

variable (negative : Bool) (places n : Nat)

theorem length_fraction_ofUnits :
    (Numeral.ofUnits negative places n).fraction.length = places := by
  have hlength := length_padded places n
  rw [Numeral.ofUnits, List.length_drop]
  omega

theorem units_ofUnits : (Numeral.ofUnits negative places n).units = signed negative * n := by
  simp only [Numeral.units, Numeral.ofUnits, List.take_append_drop, ofDigitChars_padded]

theorem placePoint_eq :
    placePoint places n = if places = 0 then padded places n
      else (padded places n).take ((padded places n).length - places)
        ++ '.' :: (padded places n).drop ((padded places n).length - places) :=
  rfl

theorem text_ofUnits : (Numeral.ofUnits negative places n).text
    = (if negative then ['-'] else []) ++ placePoint places n := by
  have hfraction := length_fraction_ofUnits negative places n
  rw [Numeral.text, placePoint_eq, List.append_assoc]
  congr 1
  by_cases hplaces : places = 0
  · have hnil : (Numeral.ofUnits negative places n).fraction = [] :=
      List.eq_nil_of_length_eq_zero (hfraction.trans hplaces)
    rw [hnil, if_pos hplaces]
    simp [Numeral.ofUnits, hplaces]
  · have hcons : (Numeral.ofUnits negative places n).fraction.isEmpty = false := by
      rw [List.isEmpty_eq_false_iff, ← List.length_pos_iff]
      omega
    rw [hcons, if_neg hplaces]
    rfl

theorem proper_ofUnits : (Numeral.ofUnits negative places n).Proper places := by
  have hlength := length_padded places n
  refine ⟨?digits, ?whole, ?zero, length_fraction_ofUnits negative places n⟩
  case digits =>
    intro c hc
    rw [Numeral.ofUnits, List.take_append_drop] at hc
    exact isDigit_of_mem_padded hc
  case whole =>
    rw [Numeral.ofUnits, ← List.length_pos_iff, List.length_take]
    omega
  case zero =>
    intro hzero
    rw [Numeral.ofUnits] at hzero ⊢
    dsimp only at hzero ⊢
    rw [List.head?_take, if_neg (by omega)] at hzero
    obtain ⟨rest, hrest⟩ := List.head?_eq_some_iff.mp hzero
    rw [length_padded_of_head? hzero, Nat.add_sub_cancel_left, hrest]
    rfl

end OfUnits

theorem ofUnits_value_neg_iff {negative : Bool} {places n : Nat} (hn : negative = true → n ≠ 0) :
    (Numeral.ofUnits negative places n).value < 0 ↔ negative = true := by
  rw [Numeral.value, units_ofUnits, length_fraction_ofUnits]
  cases negative with
  | false =>
    have hnonneg : 0 ≤ n * step places := mul_nonneg n.cast_nonneg (step_pos places).le
    simpa [signed] using hnonneg
  | true =>
    have hpos : 0 < n * step places :=
      mul_pos (Nat.cast_pos.mpr (Nat.pos_of_ne_zero (hn rfl))) (step_pos places)
    simpa [signed] using hpos

theorem fixed_shows_nearest {x : Float} {v : ℚ} (hx : value? x = some v) (places : Nat) :
    ∃ n : Numeral, (fixed places x).toList = n.text ∧ n.Proper places ∧
      (∃ k : ℤ, n.value = k * step places ∧ Nearest (step places) v k) ∧
      ((fixed places x).toList.head? = some '-' ↔ n.value < 0) := by
  obtain ⟨d, hd, rfl⟩ := exists_magnitude_of_value? hx
  have hnearest := (d.nearest_units places).mul_signed (isNegative x)
  have hzero : readsAsZero places (d.units places) = true ↔ d.units places = 0 :=
    readsAsZero_units_iff hd
  generalize hunits : d.units places = units at hnearest hzero
  generalize hnegative : (isNegative x && !readsAsZero places units) = negative
  have htext : (fixed places x).toList = (Numeral.ofUnits negative places units).text := by
    rw [fixed, hd, String.toList_ofList, fixedFinite, hunits, hnegative, text_ofUnits]
    cases negative <;> rfl
  -- the sign is left out only where it makes no difference
  have hsame : signed (isNegative x) * (units : ℤ) = signed negative * units := by
    rw [← hnegative]
    cases hreads : readsAsZero places units with
    | false => simp
    | true => simp [hzero.mp hreads]
  have hvalue : (Numeral.ofUnits negative places units).value
      = (signed (isNegative x) * (units : ℤ) : ℤ) * step places := by
    rw [Numeral.value, units_ofUnits, length_fraction_ofUnits, hsame]
  have hsigned : negative = true → units ≠ 0 := by
    rintro hnegative' rfl
    rw [hzero.mpr rfl, hnegative'] at hnegative
    simp at hnegative
  have hproper := proper_ofUnits negative places units
  refine ⟨_, htext, hproper, ⟨_, hvalue, hnearest⟩, ?_⟩
  rw [htext, hproper.head?_text, ofUnits_value_neg_iff hsigned]
  rfl

theorem fixed_shows_nearest_tie :
    value? (-0.125) = some (-(1 / 8)) ∧
      ∃ n : Numeral, (fixed 2 (-0.125)).toList = n.text ∧ n.Proper 2 ∧
        (∃ k : ℤ, n.value = k * step 2 ∧ Nearest (step 2) (-(1 / 8)) k) ∧
        ((fixed 2 (-0.125)).toList.head? = some '-' ↔ n.value < 0) := by
  have hmagnitude : magnitude (-0.125) = .finite ⟨leastNormal, -55⟩ := by decide
  have hsign : isNegative (-0.125) = true := by decide
  have hvalue : value? (-0.125) = some (-(1 / 8)) := by
    rw [value?_eq, hmagnitude, hsign]
    simp only [signed, Dyadic.value, leastNormal]
    norm_num
  exact ⟨hvalue, fixed_shows_nearest hvalue 2⟩

example : fixed 2 (-0.125) = "-0.12" := by decide +kernel

example : fixed 2 (-0.001) = "0.00" := by decide +kernel

end LSystem.Decimal
