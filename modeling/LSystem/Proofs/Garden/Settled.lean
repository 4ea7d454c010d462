import LSystem.Garden
import LSystem.Proofs.Plant.Rebuild

namespace LSystem

/-- A plant that shows what drawing it anew would show, if that would succeed. -/
def Plant.Settled (p : Plant) : Prop :=
  ∀ g, p.rebuild.answer = .ok g → p.geometry = some g ∧ p.actions = p.draft.tokens.actionMap

theorem RebuildError.eq_of_ending {cause cause' : Mismatch}
    (h : ending? (.expansion (.mismatch cause')) = some cause) : cause' = cause := by
  cases cause' <;> cases h <;> rfl

theorem RebuildError.isValueFault_of_ending {e : RebuildError} {cause : Mismatch}
    (h : e.ending? = some cause) : cause.isValueFault = false := by
  unfold ending? at h
  split at h <;> cases h <;> rfl

theorem RebuildError.ending_ofGrowth (e : GrowthError) :
    ending? (.expansion (.ofGrowth e)) = none := by
  rw [ExpansionError.ofGrowth]
  split <;> rfl

namespace Plant

theorem answer_rebuild_rebuild (p : Plant) : p.rebuild.state.rebuild.answer = p.rebuild.answer := by
  rw [answer_rebuild, answer_rebuild, tokens_rebuild, options_rebuild, limit_rebuild]

theorem settled_rebuild (p : Plant) : p.rebuild.state.Settled := by
  intro g hg
  rw [answer_rebuild_rebuild, answer_rebuild] at hg
  rw [tokens_rebuild, rebuild_of_ok hg]
  exact ⟨rfl, rfl⟩

theorem render_of_limit_error (t : TokenTable) (o : Options) {limit : Value} {cause : Mismatch}
    (h : limit.toLimit = .error cause) (g : Grammar) :
    render t o limit g = .error (.expansion (.mismatch cause)) := by
  rw [render, Grammar.expandUnder, h]
  rfl

theorem ending_render {t : TokenTable} {o : Options} {limit : Value} {g : Grammar}
    {e : RebuildError} (h : render t o limit g = .error e) {cause : Mismatch}
    (hending : e.ending? = some cause) : limit.toLimit = .error cause := by
  cases hlimit : limit.toLimit with
  | error cause' =>
    rw [render_of_limit_error t o hlimit] at h
    cases h
    rw [RebuildError.eq_of_ending hending]
  | ok l =>
    -- what fails then is the growth or the pen, and neither ends a step
    rw [render, Grammar.expandUnder, hlimit] at h
    change Except.mapError _ (Except.mapError _ (g.expand o.iterations l)) >>= _ = _ at h
    cases hexpand : g.expand o.iterations l with
    | error cause' =>
      rw [hexpand] at h
      cases h
      rw [RebuildError.ending_ofGrowth] at hending
      cases hending
    | ok ids =>
      rw [hexpand] at h
      change (o.pen.mapError RebuildError.pen) >>= _ = _ at h
      cases hpen : o.pen with
      | error cause' =>
        rw [hpen] at h
        cases h
        cases hending
      | ok pen =>
        rw [hpen] at h
        cases h

theorem ending_rebuild {p : Plant} {e : RebuildError} (h : p.rebuild.answer = .error e)
    {cause : Mismatch} (hending : e.ending? = some cause) : p.limit.toLimit = .error cause := by
  rw [answer_rebuild, attempt] at h
  cases hc : (Draft.compiled p.draft.tokens p.options.start p.options.rules).result with
  | error cause' =>
    rw [hc] at h
    cases h
    cases hending
  | ok d =>
    rw [hc] at h
    exact ending_render h hending

theorem settled_of_limit_error {p : Plant} {cause : Mismatch} (h : p.limit.toLimit = .error cause) :
    p.Settled := by
  intro g hg
  rw [answer_rebuild, attempt] at hg
  cases hc : (Draft.compiled p.draft.tokens p.options.start p.options.rules).result with
  | error cause' =>
    rw [hc] at hg
    cases hg
  | ok d =>
    rw [hc] at hg
    change render p.draft.tokens p.options p.limit d.build = .ok g at hg
    rw [render_of_limit_error _ _ h] at hg
    cases hg

end Plant

namespace Draft

def Command.isTokenEdit : Command → Bool
  | .addToken _ _ | .removeToken _ | .changeToken _ _ | .changeAction _ _ => true
  | _ => false

theorem eq_of_register {t t' : TokenTable} {symbol : Value} {action : Offer Action}
    {cause : TokenError} (h : t.register symbol action = ⟨t', .error cause⟩) : t' = t := by
  rcases t.register_cases symbol action with ⟨c, a, -, -, hok⟩ | ⟨e, -, hfail⟩
  · rw [hok] at h
    cases h
  · rw [hfail] at h
    cases h
    rfl

theorem state_perform_of_unchanged {d : Draft} {c : Command} (hc : c.isTokenEdit = true)
    (h : ∀ reply, (d.perform c).answer = .ok reply → reply.isChange = false) :
    (d.perform c).state = d := by
  cases c with
  | addToken symbol action =>
    rcases hr : d.tokens.register symbol action with ⟨t, cause | id⟩
    · obtain rfl := eq_of_register hr
      simp [perform, addToken, hr, Outcome.fail]
    · simp [perform, addToken, hr, Outcome.ok, Outcome.map, Except.map, Reply.isChange] at h
  | removeToken symbol =>
    rcases d.tokens.remove_cases symbol with ⟨-, -, hr⟩ | hr | ⟨c, hr⟩
    · simp [perform, removeToken, hr, Outcome.fail]
    · simp [perform, removeToken, hr, Outcome.ok, Outcome.map, Except.map, Reply.isChange] at h
    · simp [perform, removeToken, hr, Outcome.ok, Outcome.map, Except.map, Reply.isChange] at h
  | changeToken former symbol =>
    rcases hformer : d.tokens.get former with cause | (_ | e)
    · simp [perform, changeToken, hformer, Outcome.fail]
    · simp [perform, changeToken, hformer, Outcome.ok]
    · rcases hr : d.tokens.register symbol (.proper e.action) with ⟨t, cause | id⟩
      · obtain rfl := eq_of_register hr
        simp [perform, changeToken, hformer, hr, Outcome.fail]
      · simp [perform, changeToken, hformer, hr, Outcome.ok, Outcome.map, Except.map,
          Reply.isChange] at h
  | changeAction symbol action =>
    rcases hsymbol : d.tokens.get symbol with cause | (_ | e)
    · simp [perform, changeAction, hsymbol, Outcome.fail]
    · simp [perform, changeAction, hsymbol, Outcome.ok]
    · rcases hr : d.tokens.register symbol action with ⟨t, cause | id⟩
      · obtain rfl := eq_of_register hr
        simp [perform, changeAction, hsymbol, hr, Outcome.fail]
      · simp [perform, changeAction, hsymbol, hr, Outcome.ok, Outcome.map, Except.map,
          Reply.isChange] at h
  | setTokens | addRule | setRules | setRulesText | setStart => cases hc

end Draft

end LSystem
