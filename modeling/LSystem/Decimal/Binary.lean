namespace LSystem.Decimal

/-- The number `mantissa · 2 ^ exponent`. -/
structure Dyadic where
  mantissa : Nat
  exponent : Int
  deriving DecidableEq, Repr

inductive Magnitude where
  | finite (d : Dyadic)
  | infinite
  | undefined
  deriving DecidableEq, Repr

/-- The least mantissa of a normal double: two to the power of 52. -/
def leastNormal : Nat := 4503599627370496

def isNegative (x : Float) : Bool :=
  2048 * leastNormal ≤ x.toBits.toNat

def magnitudeOfBits (bits : Nat) : Magnitude :=
  let fraction : Nat := bits % leastNormal
  let exponent : Nat := bits / leastNormal % 2048
  if exponent = 2047 then if fraction = 0 then .infinite else .undefined
  else if exponent = 0 then .finite ⟨fraction, -1074⟩
  else .finite ⟨leastNormal + fraction, exponent - 1075⟩

def magnitude (x : Float) : Magnitude :=
  magnitudeOfBits x.toBits.toNat

namespace Dyadic

def numerator (d : Dyadic) (places : Int) : Nat :=
  d.mantissa * Nat.pow 2 d.exponent.toNat * Nat.pow 10 places.toNat

def denominator (d : Dyadic) (places : Int) : Nat :=
  Nat.pow 2 (-d.exponent).toNat * Nat.pow 10 (-places).toNat

def floor (d : Dyadic) : Nat :=
  d.numerator 0 / d.denominator 0

theorem denominator_pos (d : Dyadic) (places : Int) : 0 < d.denominator places :=
  Nat.mul_pos (Nat.pow_pos (by decide)) (Nat.pow_pos (by decide))

end Dyadic

theorem magnitudeOfBits_bounds {bits : Nat} {d : Dyadic} (h : magnitudeOfBits bits = .finite d) :
    d.mantissa < 2 * leastNormal ∧ -1074 ≤ d.exponent := by
  have hm := Nat.mod_lt bits (show 0 < leastNormal by decide)
  simp only [magnitudeOfBits] at h
  split at h
  · split at h <;> simp at h
  · split at h <;> (obtain rfl := Magnitude.finite.inj h; constructor <;> dsimp only <;> omega)

end LSystem.Decimal
