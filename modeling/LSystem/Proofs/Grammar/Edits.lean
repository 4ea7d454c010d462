import LSystem.Grammar.Draft
import LSystem.Proofs.Token.Consistency

namespace LSystem

open TokenTable

namespace Draft

theorem tokens_addRule (d : Draft) (text : String) : (d.addRule text).state.tokens = d.tokens := by
  unfold addRule
  cases d.tokens.compileRule text <;> rfl

theorem tokens_addRules (d : Draft) (place : Nat) (texts : List String) :
    (d.addRules place texts).state.tokens = d.tokens := by
  induction texts generalizing d place with
  | nil => rfl
  | cons text rest ih =>
    have hadd := tokens_addRule d text
    rw [addRules]
    rcases heq : d.addRule text with ⟨next, e | _⟩
    · rw [heq] at hadd
      exact hadd
    · rw [heq] at hadd
      exact (ih next (place + 1)).trans hadd

theorem tokens_setRules (d : Draft) (texts : List String) :
    (d.setRules texts).state.tokens = d.tokens :=
  tokens_addRules _ 0 texts

def compiled (t : TokenTable) (start : String) (texts : List String) :
    Outcome Draft EditError Unit :=
  ((ofTokens t).setStart start).setRules texts

theorem tokens_compiled (t : TokenTable) (start : String) (texts : List String) :
    (compiled t start texts).state.tokens = t :=
  tokens_setRules _ texts

theorem state_setTokens (d : Draft) (declarations : List Declaration) :
    (d.setTokens declarations).state.tokens = (TokenTable.reset declarations).state := by
  unfold setTokens
  rcases TokenTable.reset declarations with ⟨t, _ | _⟩ <;> rfl

theorem state_addToken (d : Draft) (symbol : Value) (action : Offer Action) :
    (d.addToken symbol action).state
      = { d with tokens := (d.tokens.register symbol action).state } := by
  unfold addToken
  rcases d.tokens.register symbol action with ⟨t, _ | _⟩ <;> rfl

theorem state_removeToken (d : Draft) (symbol : Value) :
    (d.removeToken symbol).state = { d with tokens := (d.tokens.remove symbol).state } := by
  unfold removeToken
  rcases d.tokens.remove symbol with ⟨t, _ | _⟩ <;> rfl

theorem state_changeAction (d : Draft) (symbol : Value) (action : Offer Action) :
    (d.changeAction symbol action).state = d
      ∨ (d.changeAction symbol action).state = (d.addToken symbol action).state := by
  unfold changeAction addToken
  rcases d.tokens.get symbol with cause | (_ | e)
  · exact Or.inl rfl
  · exact Or.inl rfl
  · rcases d.tokens.register symbol action with ⟨t, _ | _⟩ <;> exact Or.inr rfl

theorem exists_state_changeToken (d : Draft) (former symbol : Value) :
    ∃ t, (d.changeToken former symbol).state = { d with tokens := t } := by
  unfold changeToken
  rcases d.tokens.get former with cause | (_ | e)
  · exact ⟨d.tokens, rfl⟩
  · exact ⟨d.tokens, rfl⟩
  · dsimp only
    rcases d.tokens.register symbol (.proper e.action) with ⟨t, cause | id⟩
    · exact ⟨t, rfl⟩
    · exact ⟨_, rfl⟩

section Invariants

variable {P : TokenTable → Prop} {t : TokenTable}

theorem register_induct (hinsert : ∀ t c a, P t → P (t.insert c a)) (h : P t) (symbol : Value)
    (action : Offer Action) : P (t.register symbol action).state := by
  rcases t.register_cases symbol action with ⟨c, a, -, -, hok⟩ | ⟨e, -, hfail⟩
  · rw [hok]
    exact hinsert t c a h
  · rw [hfail]
    exact h

theorem remove_induct (herase : ∀ t c, P t → P (t.erase c)) (h : P t) (symbol : Value) :
    P (t.remove symbol).state := by
  rcases t.state_remove symbol with hsame | ⟨c, herased⟩
  · rw [hsame]
    exact h
  · rw [herased]
    exact herase t c h

theorem changeToken_induct (herase : ∀ t c, P t → P (t.erase c))
    (hinsert : ∀ t c a, P t → P (t.insert c a)) {d : Draft} (h : P d.tokens)
    (former symbol : Value) : P (d.changeToken former symbol).state.tokens := by
  unfold changeToken
  split
  · exact h
  · exact h
  · next e _ =>
    have hregister := register_induct hinsert h symbol (.proper e.action)
    rcases hr : d.tokens.register symbol (.proper e.action) with ⟨t, cause | id⟩
    · rw [hr] at hregister
      exact hregister
    · rw [hr] at hregister
      change P (if symbol.symbol? = former.symbol? then t else (t.remove former).state)
      split
      · exact hregister
      · exact remove_induct herase hregister former

theorem tokens_perform_induct (herase : ∀ t c, P t → P (t.erase c))
    (hinsert : ∀ t c a, P t → P (t.insert c a)) {d : Draft} (h : P d.tokens) {c : Command}
    (hc : ∀ declarations, c ≠ .setTokens declarations) : P (d.perform c).state.tokens := by
  cases c with
  | setTokens declarations => exact (hc declarations rfl).elim
  | addToken symbol action =>
    change P (d.addToken symbol action).state.tokens
    rw [state_addToken]
    exact register_induct hinsert h symbol action
  | removeToken symbol =>
    change P (d.removeToken symbol).state.tokens
    rw [state_removeToken]
    exact remove_induct herase h symbol
  | changeToken former symbol => exact changeToken_induct herase hinsert h former symbol
  | changeAction symbol action =>
    change P (d.changeAction symbol action).state.tokens
    rcases d.state_changeAction symbol action with hsame | hadded
    · rw [hsame]
      exact h
    · rw [hadded, state_addToken]
      exact register_induct hinsert h symbol action
  | addRule rule =>
    have htokens := tokens_addRule d rule.toText
    simp only [perform]
    rcases hadd : d.addRule rule.toText with ⟨next, _ | _⟩
    all_goals
      rw [hadd] at htokens
      exact htokens ▸ h
  | setRules rules =>
    change P (d.setRulesOf rules).state.tokens
    unfold setRulesOf
    split
    · rw [tokens_setRules]
      exact h
    · exact h
  | setRulesText rules =>
    change P (d.setRulesText rules.toText).state.tokens
    rw [setRulesText, tokens_setRules]
    exact h
  | setStart text => exact h

end Invariants

theorem consistent_perform {d : Draft} (h : d.tokens.Consistent) (c : Command) :
    (d.perform c).state.tokens.Consistent := by
  by_cases hc : ∃ declarations, c = .setTokens declarations
  · obtain ⟨declarations, rfl⟩ := hc
    change (d.setTokens declarations).state.tokens.Consistent
    rw [state_setTokens]
    exact Consistent.reset declarations
  · exact tokens_perform_induct (fun _ c h => h.erase c) (fun _ c a h => h.insert c a) h
      fun declarations heq => hc ⟨declarations, heq⟩

end Draft

end LSystem
