import LSystem.Proofs.Grammar.RuleLists

namespace LSystem

namespace Draft

open TokenTable

def Command.editsOne : Command → Bool
  | .addToken _ _ | .removeToken _ | .changeToken _ _ | .changeAction _ _ | .addRule _ => true
  | .setTokens _ | .setRules _ | .setRulesText _ | .setStart _ => false

/-- Why an edit of one symbol or one rule is refused. A symbol that is to be changed comes first: if
it is not in the table, nothing else is looked at. -/
inductive Refuses (d : Draft) : Command → EditError → Prop
  | addToken {symbol action e} (h : TokenTable.Refuses symbol action e) :
      d.Refuses (.addToken symbol action) (.token e)
  | removeUnhashable {symbol} (h : symbol.isKey = false) (hfull : d.tokens.entries ≠ []) :
      d.Refuses (.removeToken symbol) (.token (.unhashable symbol))
  | changeUnhashable {former symbol} (h : former.isKey = false) :
      d.Refuses (.changeToken former symbol) (.token (.unhashable former))
  | changeToken {former symbol entry e} (hfound : d.tokens.get former = .ok (some entry))
      (h : TokenTable.Refuses symbol (.proper entry.action) e) :
      d.Refuses (.changeToken former symbol) (.token e)
  | redrawUnhashable {symbol action} (h : symbol.isKey = false) :
      d.Refuses (.changeAction symbol action) (.token (.unhashable symbol))
  | changeAction {symbol action entry e} (hfound : d.tokens.get symbol = .ok (some entry))
      (h : TokenTable.Refuses symbol action e) :
      d.Refuses (.changeAction symbol action) (.token e)
  | addRule {rule cause} (h : Rule.Refused d.tokens.knows rule.toText cause) :
      d.Refuses (.addRule rule) (.rule cause)

variable {d : Draft} {c : Command} {e : EditError}

theorem perform_of_refuses (h : d.Refuses c e) : d.perform c = .fail d e := by
  cases h with
  | addToken h =>
    rw [perform, Draft.addToken, register_of_refuses d.tokens h]
    rfl
  | removeUnhashable h hfull =>
    rw [perform, Draft.removeToken, d.tokens.remove_of_not_isKey h hfull]
    rfl
  | changeUnhashable h =>
    rw [perform, Draft.changeToken, d.tokens.get_of_not_isKey h]
    rfl
  | redrawUnhashable h =>
    rw [perform, Draft.changeAction, d.tokens.get_of_not_isKey h]
    rfl
  | changeToken hfound h =>
    rw [perform, Draft.changeToken, hfound]
    dsimp only
    rw [register_of_refuses d.tokens h]
    rfl
  | changeAction hfound h =>
    rw [perform, Draft.changeAction, hfound]
    dsimp only
    rw [register_of_refuses d.tokens h]
    rfl
  | addRule h =>
    have hadd : d.addRule _ = .fail d _ := addRule_of_refused h d.rules
    rw [perform, hadd]
    rfl

theorem refuses_or_answer_eq_ok (d : Draft) (hc : c.editsOne = true) :
    (∃ e, d.Refuses c e) ∨ ∃ reply, (d.perform c).answer = .ok reply := by
  cases c with
  | addToken symbol action =>
    rcases d.tokens.register_cases symbol action with ⟨x, a, -, -, hok⟩ | ⟨e, h, -⟩
    · exact Or.inr ⟨.done, by rw [perform, Draft.addToken, hok]; rfl⟩
    · exact Or.inl ⟨.token e, .addToken h⟩
  | removeToken symbol =>
    rcases d.tokens.remove_cases symbol with ⟨hkey, hfull, -⟩ | hok | ⟨x, hok⟩
    · exact Or.inl ⟨_, .removeUnhashable hkey hfull⟩
    · exact Or.inr ⟨.removed none, by rw [perform, Draft.removeToken, hok]; rfl⟩
    · exact Or.inr ⟨.removed (d.tokens.find? x), by rw [perform, Draft.removeToken, hok]; rfl⟩
  | changeToken former symbol =>
    rcases hget : d.tokens.get former with cause | (_ | entry)
    · exact Or.inl ⟨_, .changeUnhashable (get_eq_error_iff.mp hget).1⟩
    · exact Or.inr ⟨.changed false, by rw [perform, Draft.changeToken, hget]; rfl⟩
    · rcases d.tokens.register_cases symbol (.proper entry.action) with
        ⟨x, a, -, -, hok⟩ | ⟨e, h, -⟩
      · refine Or.inr ⟨.changed true, ?_⟩
        simp only [perform, Draft.changeToken, hget, hok]
        rfl
      · exact Or.inl ⟨.token e, .changeToken hget h⟩
  | changeAction symbol action =>
    rcases hget : d.tokens.get symbol with cause | (_ | entry)
    · exact Or.inl ⟨_, .redrawUnhashable (get_eq_error_iff.mp hget).1⟩
    · exact Or.inr ⟨.changed false, by rw [perform, Draft.changeAction, hget]; rfl⟩
    · rcases d.tokens.register_cases symbol action with ⟨x, a, -, -, hok⟩ | ⟨e, h, -⟩
      · refine Or.inr ⟨.changed true, ?_⟩
        simp only [perform, Draft.changeAction, hget, hok]
        rfl
      · exact Or.inl ⟨.token e, .changeAction hget h⟩
  | addRule rule =>
    cases hread : Rule.read d.tokens.knows rule.toText with
    | error cause => exact Or.inl ⟨.rule cause, .addRule (Rule.refused_iff.mpr hread)⟩
    | ok r => exact Or.inr ⟨.done, by rw [perform, addRule_of_read hread]; rfl⟩
  | setTokens | setRules | setRulesText | setStart => cases hc

theorem refused_edits_change_nothing (d : Draft) (hc : c.editsOne = true) :
    (∀ e, (d.perform c).answer = .error e ↔ d.Refuses c e)
      ∧ ∀ e, (d.perform c).answer = .error e → (d.perform c).state = d := by
  have hrefuses : ∀ e, (d.perform c).answer = .error e → d.Refuses c e := by
    intro e he
    rcases d.refuses_or_answer_eq_ok hc with ⟨e', h⟩ | ⟨reply, hok⟩
    · rw [perform_of_refuses h] at he
      cases he
      exact h
    · cases hok.symm.trans he
  refine ⟨fun e => ⟨hrefuses e, fun h => ?_⟩, fun e he => ?_⟩
  · rw [perform_of_refuses h]
    rfl
  · rw [perform_of_refuses (hrefuses e he)]
    rfl

theorem refused_edits_change_nothing_spiral :
    (spiral.perform (.addToken (.text "F") (.other .null))).answer
        = .error (.token (.notAction .null))
      ∧ (spiral.perform (.addToken (.text "F") (.other .null))).state = spiral
      ∧ (spiral.perform (.changeToken (.text "F") (.text ""))).answer
        = .error (.token (.badSymbol (.text "")))
      ∧ (spiral.perform (.changeToken (.text "F") (.text ""))).state = spiral
      ∧ (spiral.perform (.changeAction (.text "X") (.other (.int 3)))).state = spiral
      ∧ (spiral.perform (.addRule (.text "X=F?"))).state = spiral
      ∧ ¬∃ e, spiral.Refuses (.changeToken (.text "Z") (.text "")) e := by
  obtain ⟨-, hadd⟩ := refused_edits_change_nothing spiral
    (c := .addToken (.text "F") (.other .null)) rfl
  obtain ⟨hiff, hchange⟩ := refused_edits_change_nothing spiral
    (c := .changeToken (.text "F") (.text "")) rfl
  obtain ⟨-, hredraw⟩ := refused_edits_change_nothing spiral
    (c := .changeAction (.text "X") (.other (.int 3))) rfl
  obtain ⟨-, hrule⟩ := refused_edits_change_nothing spiral (c := .addRule (.text "X=F?")) rfl
  obtain ⟨habsent, -⟩ := refused_edits_change_nothing spiral
    (c := .changeToken (.text "Z") (.text "")) rfl
  refine ⟨rfl, hadd _ rfl, (hiff _).mpr (.changeToken rfl (.symbol rfl)), hchange _ rfl,
    hredraw _ rfl, hrule _ rfl, ?_⟩
  rintro ⟨e, he⟩
  cases (habsent e).mpr he

end Draft

end LSystem
