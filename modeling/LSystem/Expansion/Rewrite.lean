import LSystem.Grammar.Basic

namespace LSystem.Grammar

def rewrite (g : Grammar) (ids : List Int) : List Int :=
  ids.flatMap g.production

def rewriteTimes (g : Grammar) : Nat → List Int → List Int
  | 0, ids => ids
  | n + 1, ids => g.rewriteTimes n (g.rewrite ids)

def generation (g : Grammar) (n : Nat) : List Int :=
  g.rewriteTimes n g.start

@[simp] theorem rewrite_nil (g : Grammar) : g.rewrite [] = [] := rfl

theorem rewrite_cons (g : Grammar) (id : Int) (ids : List Int) :
    g.rewrite (id :: ids) = g.production id ++ g.rewrite ids := rfl

theorem rewrite_append (g : Grammar) (u v : List Int) :
    g.rewrite (u ++ v) = g.rewrite u ++ g.rewrite v :=
  List.flatMap_append

theorem rewriteTimes_add (g : Grammar) (m n : Nat) (ids : List Int) :
    g.rewriteTimes (m + n) ids = g.rewriteTimes n (g.rewriteTimes m ids) := by
  induction m generalizing ids with
  | zero => simp [rewriteTimes]
  | succ m ih => rw [Nat.succ_add]; exact ih _

theorem rewriteTimes_succ (g : Grammar) (n : Nat) (ids : List Int) :
    g.rewriteTimes (n + 1) ids = g.rewrite (g.rewriteTimes n ids) :=
  g.rewriteTimes_add n 1 ids

theorem generation_succ (g : Grammar) (n : Nat) :
    g.generation (n + 1) = g.rewrite (g.generation n) :=
  g.rewriteTimes_succ n g.start

theorem rewrite_eq_self {g : Grammar} {ids : List Int}
    (h : ∀ id ∈ ids, g.hasProduction id = false) : g.rewrite ids = ids := by
  induction ids with
  | nil => rfl
  | cons id ids ih =>
    rw [rewrite_cons, production_of_hasProduction_eq_false (h id (by simp)),
      ih fun x hx => h x (by simp [hx])]
    rfl

end LSystem.Grammar
