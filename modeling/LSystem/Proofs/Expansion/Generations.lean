import LSystem.Proofs.Expansion.Gather

namespace LSystem.Grammar

variable {g : Grammar}

theorem rewriteTimes_eq_iterate (g : Grammar) (n : Nat) (ids : List Int) :
    g.rewriteTimes n ids = (Productions.rewrite g.productions)^[n] ids := by
  induction n generalizing ids with
  | zero => rfl
  | succ n ih => exact ih (g.rewrite ids)

theorem NonNegative.expand_none (h : g.NonNegative) (n : Nat) :
    g.expand n none = .ok (g.generation n).toArray := by
  rw [h.expand_eq, Productions.grow_none, generation, rewriteTimes_eq_iterate]
  rfl

theorem expandWith_int (room : Nat) (g : Grammar) (n : Nat) (limit : Value) :
    expandWith room g (.int n) limit = (do
      let _ ← limit.toLimit.mapError .mismatch
      if !g.start.all Value.fitsWord then throw (.mismatch .outOfRange)
      checkTable room g n
      g.expandUnder n limit) := by
  have hcount : (Value.int n).toCount = .ok n := by
    simp [Value.toCount]
  rw [expandWith, hcount]
  rfl

end LSystem.Grammar
