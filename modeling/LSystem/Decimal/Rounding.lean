namespace LSystem.Decimal

/-- The natural number nearest to `num / den`; a half goes to the even neighbour. -/
def roundDiv (num den : Nat) : Nat :=
  let down := num / den
  let rest := num % den
  if 2 * rest < den then down
  else if den < 2 * rest then down + 1
  else if down % 2 = 0 then down
  else down + 1

@[simp] theorem roundDiv_zero (den : Nat) : roundDiv 0 den = 0 := by
  simp [roundDiv]

theorem roundDiv_cases (num den : Nat) :
    roundDiv num den = num / den ∧ 2 * (num % den) ≤ den
      ∨ roundDiv num den = num / den + 1 ∧ den ≤ 2 * (num % den) := by
  simp only [roundDiv]
  split
  · omega
  · split
    · omega
    · split <;> omega

theorem two_mul_roundDiv_le (num den : Nat) :
    2 * (roundDiv num den * den) ≤ 2 * num + den := by
  have hd := Nat.div_add_mod' num den
  rcases roundDiv_cases num den with ⟨h, hr⟩ | ⟨h, hr⟩
  · rw [h]; omega
  · rw [h, Nat.add_mul, Nat.one_mul]; omega

theorem two_mul_le_roundDiv {num den : Nat} (hpos : 0 < den) :
    2 * num ≤ 2 * (roundDiv num den * den) + den := by
  have hd := Nat.div_add_mod' num den
  have hm := Nat.mod_lt num hpos
  rcases roundDiv_cases num den with ⟨h, hr⟩ | ⟨h, hr⟩
  · rw [h]; omega
  · rw [h, Nat.add_mul, Nat.one_mul]; omega

theorem roundDiv_even {num den : Nat} (h : 2 * (num % den) = den) :
    roundDiv num den % 2 = 0 := by
  simp only [roundDiv, h, Nat.lt_irrefl, if_false]
  split <;> omega

theorem roundDiv_even_of_tie {num den : Nat} (hpos : 0 < den)
    (h : 2 * (roundDiv num den * den) = 2 * num + den
      ∨ 2 * num = 2 * (roundDiv num den * den) + den) :
    roundDiv num den % 2 = 0 := by
  have hd := Nat.div_add_mod' num den
  have hm := Nat.mod_lt num hpos
  apply roundDiv_even
  rcases roundDiv_cases num den with ⟨hdown, hr⟩ | ⟨hup, hr⟩
  · rw [hdown] at h
    omega
  · rw [hup, Nat.add_mul, Nat.one_mul] at h
    omega

end LSystem.Decimal
