import LSystem.Proofs.Expansion.Substitution
import LSystem.Proofs.Plant.Rebuild
import LSystem.Proofs.Turtle.Interpretation

namespace LSystem

/-- What a drawing shows, without a word on ids. -/
structure Drawing where
  text : String
  trace : Trace Float
  actions : Dictionary Char Action

def Drawing.ofOptions (o : Options) (limit : Value) (actions : Dictionary Char Action) :
    Except RebuildError Drawing := do
  let known (c : Char) : Bool := (actions.get? c).isSome
  let rules ← (Rule.readAll known 0 o.rules).mapError .edit
  let limit ← limit.toLimit.mapError fun e => .expansion (.mismatch e)
  let cs ← ((Rule.addAll [] rules).grow limit 1 o.iterations (o.start.toList.filter known)).mapError
    fun e => .expansion (.ofGrowth e)
  let pen ← o.pen.mapError .pen
  return ⟨.ofList cs, .ofItems (Turtle.walk (.ofDegrees pen.rotationAngle) pen.segmentLength
    (cs.map actions.get?)), actions⟩

namespace Plant

def drawing (p : Plant) : Except RebuildError Drawing :=
  p.rebuild.answer.map fun g => ⟨g.text, g.trace, p.rebuild.state.actions⟩

inductive Command where
  | edit (c : Draft.Command)
  | setOptions (o : Options)
  | updateOptions (changes : Dictionary String Value)
  | compile
  | rebuild

def perform (p : Plant) : Command → Plant
  | .edit c => (p.edit c).state
  | .setOptions o => p.setOptions o
  | .updateOptions changes => (p.updateOptions changes).state
  | .compile => p.compile.state
  | .rebuild => p.rebuild.state

def performAll (p : Plant) (commands : List Command) : Plant :=
  commands.foldl perform p

open Draft TokenTable

theorem consistent_performCommand {p : Plant} (h : p.draft.tokens.Consistent) (c : Command) :
    (p.perform c).draft.tokens.Consistent := by
  cases c with
  | edit c => exact consistent_perform h c
  | setOptions o => exact h
  | updateOptions changes =>
    change (p.updateOptions changes).state.draft.tokens.Consistent
    unfold updateOptions
    cases p.options.update changes <;> exact h
  | compile =>
    change p.compile.state.draft.tokens.Consistent
    rw [compile_eq, tokens_redraft]
    exact h
  | rebuild =>
    change p.rebuild.state.draft.tokens.Consistent
    rw [tokens_rebuild]
    exact h

theorem limit_perform (p : Plant) (c : Command) : (p.perform c).limit = p.limit := by
  cases c with
  | edit c => rfl
  | setOptions o => rfl
  | updateOptions changes =>
    change (p.updateOptions changes).state.limit = p.limit
    unfold updateOptions
    cases p.options.update changes <;> rfl
  | compile =>
    change p.compile.state.limit = p.limit
    rw [compile_eq]
  | rebuild => exact limit_rebuild p

theorem consistent_performAll {p : Plant} (h : p.draft.tokens.Consistent)
    (commands : List Command) :
    (p.performAll commands).draft.tokens.Consistent := by
  induction commands generalizing p with
  | nil => exact h
  | cons c commands ih => exact ih (consistent_performCommand h c)

theorem limit_performAll (p : Plant) (commands : List Command) :
    (p.performAll commands).limit = p.limit := by
  induction commands generalizing p with
  | nil => rfl
  | cons c commands ih => exact (ih (p.perform c)).trans (limit_perform p c)

theorem drawing_eq_map (p : Plant) :
    p.drawing = (attempt p.draft.tokens p.options p.limit).map fun g =>
      ⟨g.text, g.trace, p.draft.tokens.actionMap⟩ := by
  rw [drawing]
  cases h : attempt p.draft.tokens p.options p.limit with
  | error e =>
    rw [rebuild_of_error h]
    rfl
  | ok g =>
    rw [rebuild_of_ok h]
    rfl

theorem interpret_codeOf {t : TokenTable} (ht : t.Consistent) (pen : Pen) {cs : List Char}
    (hcs : ∀ c ∈ cs, t.knows c = true) :
    Turtle.interpret t.actionOf pen (cs.map t.codeOf).toArray
      = .ofItems (Turtle.walk (.ofDegrees pen.rotationAngle) pen.segmentLength
          (cs.map t.actionMap.get?)) := by
  have hactions : (cs.map t.codeOf).map t.actionOf = cs.map t.actionMap.get? := by
    rw [List.map_map]
    exact List.map_congr_left fun c hc => ht.actionOf_codeOf (hcs c hc)
  rw [Turtle.interpret_eq_walk, ← hactions]
  rfl

theorem expandUnder_spelled {t : TokenTable} (ht : t.Consistent) {rules : Productions Char}
    (hrules : rules.Within fun c => t.knows c = true) {cs : List Char}
    (hcs : ∀ c ∈ cs, t.knows c = true) (n : Nat) (limit : Value) :
    (spelled t cs rules).build.expandUnder n limit
      = (do
        let limit ← limit.toLimit.mapError .mismatch
        ((rules.grow limit 1 n cs).map fun cs =>
          (cs.map t.codeOf).toArray).mapError .ofGrowth) := by
  rw [Grammar.expandUnder]
  cases limit.toLimit with
  | error e => rfl
  | ok limit =>
    change Except.mapError _ ((spelled t cs rules).build.expand n limit) = _
    rw [expand_spelled ht hrules hcs]
    rfl

theorem render_spelled {t : TokenTable} (ht : t.Consistent) {rules : Productions Char}
    (hrules : rules.Within fun c => t.knows c = true) {cs : List Char}
    (hcs : ∀ c ∈ cs, t.knows c = true) (o : Options) (limit : Value) :
    (render t o limit (spelled t cs rules).build).map
        (fun g => Drawing.mk g.text g.trace t.actionMap)
      = do
        let limit ← limit.toLimit.mapError fun e => .expansion (.mismatch e)
        let cs ← (rules.grow limit 1 o.iterations cs).mapError fun e => .expansion (.ofGrowth e)
        let pen ← o.pen.mapError .pen
        return ⟨.ofList cs, .ofItems (Turtle.walk (.ofDegrees pen.rotationAngle)
          pen.segmentLength (cs.map t.actionMap.get?)), t.actionMap⟩ := by
  rw [render, expandUnder_spelled ht hrules hcs]
  cases limit.toLimit with
  | error e => rfl
  | ok limit =>
    change Except.map _ (Except.bind (Except.mapError _ (Except.mapError _ (Except.map _
      (rules.grow limit 1 o.iterations cs)))) _)
        = Except.bind (Except.mapError _ (rules.grow limit 1 o.iterations cs)) _
    cases hgrow : rules.grow limit 1 o.iterations cs with
    | error e => rfl
    | ok xs =>
      change Except.map _ (Except.bind (Except.mapError _ o.pen) _)
        = Except.bind (Except.mapError _ o.pen) _
      cases o.pen with
      | error e => rfl
      | ok pen =>
        have hxs := hrules.grow hcs hgrow
        have htext := decode_build (d := spelled t cs rules) ht hxs
        have htrace := interpret_codeOf ht pen hxs
        change Except.ok (Drawing.mk ((spelled t cs rules).build.decode (xs.map t.codeOf))
          (Turtle.interpret t.actionOf pen (xs.map t.codeOf).toArray) t.actionMap) = _
        rw [htrace]
        exact congrArg (fun text => Except.ok (Drawing.mk text _ _)) htext

theorem drawing_eq_ofOptions {p : Plant} (h : p.draft.tokens.Consistent) :
    p.drawing = Drawing.ofOptions p.options p.limit p.draft.tokens.actionMap := by
  have hknown : (fun c => (p.draft.tokens.actionMap.get? c).isSome) = p.draft.tokens.knows :=
    funext fun c => (knows_eq_actionMap p.draft.tokens c).symm
  rw [drawing_eq_map, attempt, compiled_result h, Drawing.ofOptions]
  simp only [hknown]
  cases hread : Rule.readAll p.draft.tokens.knows 0 p.options.rules with
  | error e => rfl
  | ok rules =>
    have hstart : ∀ c ∈ p.options.start.toList.filter p.draft.tokens.knows,
        p.draft.tokens.knows c = true := fun c hc => (List.mem_filter.mp hc).2
    exact render_spelled h (Rule.within_of_readAll hread) hstart p.options p.limit

def fresh (p : Plant) : Plant where
  options := p.options
  draft := .ofTokens (.listed p.draft.tokens.actionMap)
  limit := p.limit
  geometry := none
  actions := (listed p.draft.tokens.actionMap).actionMap

theorem create_fresh (p : Plant) :
    create p.options p.draft.tokens.declarations p.limit = .ok p.fresh :=
  create_of_valid (reset_declare p.draft.tokens.actionMap) p.options p.limit

theorem drawing_fresh {p : Plant} (h : p.draft.tokens.Consistent) :
    p.fresh.drawing = p.drawing := by
  have hfresh : p.fresh.draft.tokens.Consistent := consistent_listed p.draft.tokens.actionMap
  have hactions : p.fresh.draft.tokens.actionMap = p.draft.tokens.actionMap := h.actionMap_listed
  rw [drawing_eq_ofOptions hfresh, drawing_eq_ofOptions h, hactions]
  rfl

theorem rebuild_forgets_history {options : Options} {declarations : List Declaration}
    {limit : Value} {p₀ : Plant} (h : create options declarations limit = .ok p₀)
    (commands : List Command) :
    ∃ q, create (p₀.performAll commands).options
        (p₀.performAll commands).draft.tokens.declarations limit = .ok q
      ∧ q.drawing = (p₀.performAll commands).drawing := by
  obtain ⟨t, hreset, rfl⟩ := exists_of_create h
  have ht : t.Consistent := by
    have hstate := Consistent.reset declarations
    rwa [hreset] at hstate
  generalize hp : performAll _ commands = p
  have hconsistent : p.draft.tokens.Consistent := hp ▸ consistent_performAll ht commands
  have hlimit : p.limit = limit := hp ▸ limit_performAll _ commands
  refine ⟨p.fresh, ?_, drawing_fresh hconsistent⟩
  rw [← hlimit]
  exact create_fresh p

theorem rebuild_forgets_retired_ids :
    ∃ p₀ p q, create ⟨"AB", ["A=AB"], 2, 90, 1⟩ (declare [('A', .forward), ('B', .nothing)]) .null
        = .ok p₀
      ∧ p₀.performAll [.edit (.removeToken (.text "B")), .rebuild,
          .edit (.addToken (.text "B") (.proper .pop)),
          .edit (.changeAction (.text "A") (.proper .push)), .edit (.addRule (.text "C=A")),
          .compile] = p
      ∧ p.draft.tokens.symbols = #[none, none, some 'B', some 'A']
      ∧ create p.options p.draft.tokens.declarations .null = .ok q
      ∧ q.draft.tokens.symbols = #[some 'B', some 'A']
      ∧ q.drawing = p.drawing := by
  obtain ⟨p₀, h₀⟩ : ∃ p₀, create ⟨"AB", ["A=AB"], 2, 90, 1⟩
      (declare [('A', .forward), ('B', .nothing)]) .null = .ok p₀ := ⟨_, rfl⟩
  obtain ⟨q, hq, hdrawing⟩ := rebuild_forgets_history h₀ [.edit (.removeToken (.text "B")),
    .rebuild, .edit (.addToken (.text "B") (.proper .pop)),
    .edit (.changeAction (.text "A") (.proper .push)), .edit (.addRule (.text "C=A")), .compile]
  refine ⟨p₀, _, q, h₀, rfl, ?_, hq, ?_, hdrawing⟩
  · cases h₀
    rfl
  · cases h₀
    cases hq
    rfl

end Plant

end LSystem
