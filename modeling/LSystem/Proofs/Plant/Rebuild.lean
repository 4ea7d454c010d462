import LSystem.Plant.Basic
import LSystem.Proofs.Grammar.Edits
import LSystem.Proofs.Outcome

namespace LSystem

namespace Plant

open Draft

theorem create_eq (o : Options) (declarations : List Declaration) (limit : Value) :
    create o declarations limit = ((TokenTable.reset declarations).result.mapError .token).map
      fun t => ⟨o, .ofTokens t, limit, none, t.actionMap⟩ := by
  rw [create, setTokens]
  rcases TokenTable.reset declarations with ⟨t, _ | _⟩ <;> rfl

theorem create_of_valid {declarations : List Declaration} {t : TokenTable}
    (h : TokenTable.reset declarations = .ok t ()) (o : Options) (limit : Value) :
    create o declarations limit = .ok ⟨o, .ofTokens t, limit, none, t.actionMap⟩ := by
  rw [create_eq, h]
  rfl

theorem exists_of_create {o : Options} {declarations : List Declaration} {limit : Value} {p : Plant}
    (h : create o declarations limit = .ok p) :
    ∃ t, TokenTable.reset declarations = .ok t ()
      ∧ p = ⟨o, .ofTokens t, limit, none, t.actionMap⟩ := by
  rw [create_eq] at h
  rcases hreset : TokenTable.reset declarations with ⟨t, cause | _⟩
  · rw [hreset] at h
    cases h
  · rw [hreset] at h
    exact ⟨t, rfl, (Except.ok.inj h).symm⟩

def attempt (t : TokenTable) (o : Options) (limit : Value) : Except RebuildError Geometry := do
  let d ← (compiled t o.start o.rules).result.mapError .edit
  render t o limit d.build

def redraft (p : Plant) : Outcome Draft EditError Unit :=
  compiled p.draft.tokens p.options.start p.options.rules

theorem tokens_redraft (p : Plant) : p.redraft.state.tokens = p.draft.tokens :=
  tokens_compiled p.draft.tokens p.options.start p.options.rules

theorem compile_eq (p : Plant) :
    p.compile = ⟨{ p with draft := p.redraft.state }, p.redraft.result.map build⟩ := by
  have hredraft : (p.draft.setStart p.options.start).setRules p.options.rules = p.redraft := rfl
  rw [compile, hredraft]
  rcases p.redraft with ⟨d, _ | _⟩ <;> rfl

theorem rebuild_eq (p : Plant) :
    p.rebuild = match attempt p.draft.tokens p.options p.limit with
      | .ok g => .ok ⟨p.options, p.redraft.state, p.limit, some g, p.draft.tokens.actionMap⟩ g
      | .error e => .fail { p with draft := p.redraft.state } e := by
  have htokens := tokens_redraft p
  have hredraft : compiled p.draft.tokens p.options.start p.options.rules = p.redraft := rfl
  rw [rebuild, compile_eq, attempt, hredraft]
  cases p.redraft.result with
  | error e => rfl
  | ok d =>
    have hattempt : (Except.mapError RebuildError.edit (.ok d) >>= fun d =>
        render p.draft.tokens p.options p.limit d.build)
          = render p.draft.tokens p.options p.limit d.build := rfl
    simp only [Except.map, htokens, hattempt]
    cases render p.draft.tokens p.options p.limit d.build <;> rfl

theorem rebuild_of_ok {p : Plant} {g : Geometry}
    (h : attempt p.draft.tokens p.options p.limit = .ok g) :
    p.rebuild = .ok ⟨p.options, p.redraft.state, p.limit, some g, p.draft.tokens.actionMap⟩ g := by
  rw [rebuild_eq, h]

theorem rebuild_of_error {p : Plant} {e : RebuildError}
    (h : attempt p.draft.tokens p.options p.limit = .error e) :
    p.rebuild = .fail { p with draft := p.redraft.state } e := by
  rw [rebuild_eq, h]

theorem answer_rebuild (p : Plant) :
    p.rebuild.answer = attempt p.draft.tokens p.options p.limit := by
  rw [rebuild_eq]
  cases attempt p.draft.tokens p.options p.limit <;> rfl

theorem tokens_rebuild (p : Plant) : p.rebuild.state.draft.tokens = p.draft.tokens := by
  rw [rebuild_eq]
  cases attempt p.draft.tokens p.options p.limit <;> exact tokens_redraft p

theorem options_rebuild (p : Plant) : p.rebuild.state.options = p.options := by
  rw [rebuild_eq]
  cases attempt p.draft.tokens p.options p.limit <;> rfl

theorem limit_rebuild (p : Plant) : p.rebuild.state.limit = p.limit := by
  rw [rebuild_eq]
  cases attempt p.draft.tokens p.options p.limit <;> rfl

theorem render_eq_ok_iff {t : TokenTable} {o : Options} {limit : Value} {grammar : Grammar}
    {g : Geometry} :
    render t o limit grammar = .ok g
      ↔ ∃ ids pen, grammar.expandUnder o.iterations limit = .ok ids ∧ o.pen = .ok pen
        ∧ g = ⟨grammar, ids, Turtle.interpret t.actionOf pen ids⟩ := by
  constructor
  · intro h
    obtain ⟨ids, hids, h⟩ := exists_of_mapError_bind_eq_ok h
    obtain ⟨pen, hpen, h⟩ := exists_of_mapError_bind_eq_ok h
    exact ⟨ids, pen, hids, hpen, (Except.ok.inj h).symm⟩
  · rintro ⟨ids, pen, hids, hpen, rfl⟩
    rw [render, hids, hpen]
    rfl

theorem rebuild_eq_ok_iff {p : Plant} {g : Geometry} :
    p.rebuild.answer = .ok g
      ↔ ∃ grammar ids pen, p.compile.answer = .ok grammar
        ∧ grammar.expandUnder p.options.iterations p.limit = .ok ids ∧ p.options.pen = .ok pen
        ∧ g = ⟨grammar, ids, Turtle.interpret p.draft.tokens.actionOf pen ids⟩ := by
  have hredraft : compiled p.draft.tokens p.options.start p.options.rules = p.redraft := rfl
  have hcompile : p.compile.answer = p.redraft.result.map build := by rw [compile_eq]
  rw [answer_rebuild, attempt, hredraft, hcompile]
  cases p.redraft.result with
  | error e => exact ⟨nofun, nofun⟩
  | ok d =>
    refine render_eq_ok_iff.trans ⟨fun ⟨ids, pen, h⟩ => ⟨_, ids, pen, rfl, h⟩, ?_⟩
    rintro ⟨grammar, ids, pen, hgrammar, h⟩
    obtain rfl := Except.ok.inj hgrammar
    exact ⟨ids, pen, h⟩

end Plant

end LSystem
