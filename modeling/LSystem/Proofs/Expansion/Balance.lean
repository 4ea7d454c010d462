import LSystem.Proofs.Expansion.Substitution
import LSystem.Proofs.Turtle.Outline

namespace LSystem

open Turtle

namespace Rule

structure KeepBranches (action : Char → Option Action) (texts : List String) : Prop where
  right : ∀ text ∈ texts, Balanced ((rightSide text).map action)
  left : ∀ text ∈ texts, ∀ c, leftSide text = [c] →
    action c ≠ some .push ∧ action c ≠ some .pop

variable {action : Char → Option Action} {texts : List String}

theorem substitute_cases (texts : List String) (c : Char) :
    substitute texts c = [c]
      ∨ ∃ text ∈ texts, leftSide text = [c] ∧ substitute texts c = rightSide text := by
  unfold substitute
  split
  · next text hfound =>
    refine Or.inr ⟨text, ?_, ?_, rfl⟩
    · exact List.mem_reverse.mp (List.mem_of_find?_eq_some hfound)
    · simpa using List.find?_some hfound
  · exact Or.inl rfl

theorem KeepBranches.depthAfter?_substitute (h : KeepBranches action texts) (d : Nat) (c : Char) :
    depthAfter? d ((substitute texts c).map action) = deepen? d (action c) := by
  rcases substitute_cases texts c with hself | ⟨text, hmem, hleft, hright⟩
  · rw [hself]
    exact depthAfter?_singleton d (action c)
  · -- neither the symbol nor what replaces it leads to another depth
    obtain ⟨hpush, hpop⟩ := h.left text hmem c hleft
    rw [hright, (h.right text hmem).depthAfter?_eq d, deepen?_of_ne hpush hpop]

theorem KeepBranches.depthAfter?_substituteAll (h : KeepBranches action texts) (d : Nat)
    (cs : List Char) :
    depthAfter? d ((substituteAll texts cs).map action) = depthAfter? d (cs.map action) := by
  induction cs generalizing d with
  | nil => rfl
  | cons c cs ih =>
    change depthAfter? d ((substitute texts c ++ substituteAll texts cs).map action) = _
    rw [List.map_append, depthAfter?_append, h.depthAfter?_substitute, List.map_cons,
      depthAfter?_cons]
    simp only [ih]

theorem KeepBranches.balanced_iterate (h : KeepBranches action texts) (n : Nat) {cs : List Char}
    (hcs : Balanced (cs.map action)) :
    Balanced (((substituteAll texts)^[n] cs).map action) := by
  induction n with
  | zero => exact hcs
  | succ n ih =>
    rw [Function.iterate_succ_apply', balanced_iff, h.depthAfter?_substituteAll, ← balanced_iff]
    exact ih

end Rule

namespace Grammar

open TokenTable

theorem expand_compile (tokens : List (Char × Action)) (start : String) (texts : List String)
    (n : Nat) {g : Grammar}
    (h : compile (declare tokens) start (.list (texts.map .text)) = .ok g) :
    let cs := (Rule.substituteAll texts)^[n]
      (start.toList.filter fun c => c ∈ tokens.map Prod.fst)
    g.expand n none = .ok (cs.map (listed tokens).codeOf).toArray
      ∧ ∀ c ∈ cs, (listed tokens).knows c = true := by
  intro cs
  have hstart : start.toList.filter (listed tokens).knows
      = start.toList.filter fun c => c ∈ tokens.map Prod.fst :=
    List.filter_congr fun c _ => Bool.eq_iff_iff.mpr (by rw [knows_listed, decide_eq_true_iff])
  have hknown : ∀ c ∈ start.toList.filter fun c => c ∈ tokens.map Prod.fst,
      (listed tokens).knows c = true := by
    rw [← hstart]
    exact fun c hc => (List.mem_filter.mp hc).2
  rw [compile_eq, hstart] at h
  cases hread : Rule.readAll (listed tokens).knows 0 texts with
  | error e =>
    rw [hread] at h
    cases h
  | ok rules =>
    rw [hread] at h
    obtain rfl := Except.ok.inj h
    have hp := Rule.within_of_readAll hread
    have hgrow := Productions.grow_none (Rule.addAll [] rules) 1 n
      (start.toList.filter fun c => c ∈ tokens.map Prod.fst)
    rw [Rule.rewrite_addAll hread] at hgrow
    refine ⟨?_, hp.grow hknown hgrow⟩
    rw [Draft.expand_spelled (consistent_listed tokens) hp hknown, hgrow]
    rfl

theorem balanced_grammars_stay_balanced (tokens : List (Char × Action)) (start : String)
    (texts : List String) {g : Grammar}
    (h : compile (declare tokens) start (.list (texts.map .text)) = .ok g)
    (hstart : Balanced ((start.toList.filter fun c => c ∈ tokens.map Prod.fst).map
      (listed tokens).actionMap.get?))
    (hrules : Rule.KeepBranches (listed tokens).actionMap.get? texts) (n : Nat) (pen : Pen) :
    ∃ ids, g.expand n none = .ok ids
      ∧ let actions := ids.toList.map (listed tokens).actionOf
        Balanced actions
          ∧ (interpret (listed tokens).actionOf pen ids).breakCount = actions.count (some .pop)
          ∧ (interpret (listed tokens).actionOf pen ids).pointCount
              = actions.count (some .nothing) + actions.count (some .forward)
                + actions.count (some .pop) := by
  obtain ⟨hexpand, hknown⟩ := expand_compile tokens start texts n h
  have hbalanced := hrules.balanced_iterate n hstart
  refine ⟨_, hexpand, ?_⟩
  intro actions
  have hactions : actions = ((Rule.substituteAll texts)^[n]
      (start.toList.filter fun c => c ∈ tokens.map Prod.fst)).map
        (listed tokens).actionMap.get? := by
    simp only [actions, List.map_map]
    exact List.map_congr_left fun c hc => (consistent_listed tokens).actionOf_codeOf (hknown c hc)
  rw [← hactions] at hbalanced
  have hreturns : returns 0 actions = actions.count (some .pop) :=
    returns_of_depthAfter? (hbalanced.depthAfter?_eq 0)
  refine ⟨hbalanced, ?_, ?_⟩
  · rw [← hreturns]
    exact breakCount_interpret _ pen _
  · rw [← hreturns]
    exact pointCount_interpret _ pen _

def shrub : List (Char × Action) :=
  [('F', .forward), ('X', .nothing), ('+', .rotate .xPos), ('[', .push), ('(', .push), (']', .pop),
    (')', .pop)]

def shrubRules : List String :=
  ["X=F[+X)(X]F", "F=FF"]

theorem balanced_grammars_stay_balanced_shrub :
    ∃ g, compile (declare shrub) "[X?)" (.list (shrubRules.map .text)) = .ok g
      ∧ Balanced (("[X?)".toList.filter fun c => c ∈ shrub.map Prod.fst).map
          (listed shrub).actionMap.get?)
      ∧ Rule.KeepBranches (listed shrub).actionMap.get? shrubRules
      ∧ ∃ ids, g.expand 2 none = .ok ids
        ∧ Balanced (ids.toList.map (listed shrub).actionOf)
        ∧ (interpret (listed shrub).actionOf ⟨1, 90⟩ ids).breakCount
            = (ids.toList.map (listed shrub).actionOf).count (some .pop)
        ∧ (interpret (listed shrub).actionOf ⟨1, 90⟩ ids).pointCount
            = (ids.toList.map (listed shrub).actionOf).count (some .nothing)
              + (ids.toList.map (listed shrub).actionOf).count (some .forward)
              + (ids.toList.map (listed shrub).actionOf).count (some .pop) := by
  obtain ⟨g, hg⟩ : ∃ g, compile (declare shrub) "[X?)" (.list (shrubRules.map .text)) = .ok g :=
    ⟨_, rfl⟩
  have hstart : Balanced (("[X?)".toList.filter fun c => c ∈ shrub.map Prod.fst).map
      (listed shrub).actionMap.get?) := by
    decide
  have hrules : Rule.KeepBranches (listed shrub).actionMap.get? shrubRules := by
    refine ⟨by decide, ?_⟩
    intro text htext c hc
    have hsides : ∀ text ∈ shrubRules, Rule.leftSide text ∈ [['X'], ['F']] := by decide
    have hmem := hsides text htext
    rw [hc] at hmem
    obtain rfl | rfl : c = 'X' ∨ c = 'F' := by simpa using hmem
    all_goals decide
  exact ⟨g, hg, hstart, hrules,
    balanced_grammars_stay_balanced shrub _ _ hg hstart hrules 2 ⟨1, 90⟩⟩

end Grammar

end LSystem
