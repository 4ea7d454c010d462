import LSystem.Proofs.Outcome
import LSystem.Proofs.Plant.History

namespace LSystem

def Turtle.interpretText (actions : Dictionary Char Action) (pen : Pen) (text : String) :
    Trace Float :=
  interpret (fun code : Int => actions.get? (Char.ofNat code.toNat)) pen
    (text.toList.map fun c => (c.toNat : Int)).toArray

theorem Turtle.interpretText_eq_walk (actions : Dictionary Char Action) (pen : Pen)
    (text : String) :
    interpretText actions pen text
      = .ofItems (walk (.ofDegrees pen.rotationAngle) pen.segmentLength
          (text.toList.map actions.get?)) := by
  have hread : ∀ c : Char, actions.get? (Char.ofNat (c.toNat : Int).toNat) = actions.get? c := by
    intro c
    rw [Int.toNat_natCast, Char.ofNat_toNat]
  rw [interpretText, interpret_eq_walk, List.toList_toArray, List.map_map]
  exact congrArg (fun looked => Trace.ofItems (walk _ _ looked))
    (List.map_congr_left fun c _ => hread c)

theorem Drawing.exists_of_ofOptions {o : Options} {limit : Value}
    {actions : Dictionary Char Action} {d : Drawing} (h : ofOptions o limit actions = .ok d) :
    ∃ cs pen, o.pen = .ok pen ∧ (∀ c ∈ cs, (actions.get? c).isSome = true) ∧ d.text = .ofList cs
      ∧ d.trace = .ofItems (Turtle.walk (.ofDegrees pen.rotationAngle) pen.segmentLength
          (cs.map actions.get?)) := by
  obtain ⟨rules, hread, h⟩ := exists_of_mapError_bind_eq_ok h
  obtain ⟨l, -, h⟩ := exists_of_mapError_bind_eq_ok h
  obtain ⟨cs, hgrow, h⟩ := exists_of_mapError_bind_eq_ok h
  obtain ⟨pen, hpen, h⟩ := exists_of_mapError_bind_eq_ok h
  obtain rfl := Except.ok.inj h
  have hstart : ∀ c ∈ o.start.toList.filter fun c => (actions.get? c).isSome,
      (actions.get? c).isSome = true := fun c hc => (List.mem_filter.mp hc).2
  exact ⟨cs, pen, hpen, (Rule.within_of_readAll hread).grow hstart hgrow, rfl, rfl⟩

namespace Plant

def Undrawn (p : Plant) (commands : List Command) : Prop :=
  ∀ before after, commands = before ++ .rebuild :: after →
    ∃ e, (p.performAll before).rebuild.answer = .error e

variable {p : Plant} {c : Command} {commands : List Command}

theorem undrawn_nil (p : Plant) : p.Undrawn [] := by
  intro before after h
  cases before <;> cases h

theorem undrawn_cons (hc : c = .rebuild → ∃ e, p.rebuild.answer = .error e)
    (h : (p.perform c).Undrawn commands) : p.Undrawn (c :: commands) := by
  intro before after hsplit
  cases before with
  | nil =>
    obtain ⟨rfl, -⟩ := List.cons.inj hsplit
    exact hc rfl
  | cons b before =>
    obtain ⟨rfl, hrest⟩ := List.cons.inj hsplit
    exact h before after hrest

theorem Undrawn.tail (h : p.Undrawn (c :: commands)) : (p.perform c).Undrawn commands := by
  intro before after hsplit
  exact h (c :: before) after (congrArg (c :: ·) hsplit)

theorem Undrawn.head (h : p.Undrawn (.rebuild :: commands)) : ∃ e, p.rebuild.answer = .error e :=
  h [] commands rfl

theorem shown_rebuild_of_error {e : RebuildError} (h : p.rebuild.answer = .error e) :
    p.rebuild.state.geometry = p.geometry ∧ p.rebuild.state.actions = p.actions := by
  rw [answer_rebuild] at h
  rw [rebuild_of_error h]
  exact ⟨rfl, rfl⟩

theorem shown_perform (h : p.Undrawn [c]) :
    (p.perform c).geometry = p.geometry ∧ (p.perform c).actions = p.actions := by
  cases c with
  | edit c => exact ⟨rfl, rfl⟩
  | setOptions o => exact ⟨rfl, rfl⟩
  | updateOptions changes =>
    change (p.updateOptions changes).state.geometry = _
      ∧ (p.updateOptions changes).state.actions = _
    unfold updateOptions
    cases p.options.update changes <;> exact ⟨rfl, rfl⟩
  | compile =>
    change p.compile.state.geometry = _ ∧ p.compile.state.actions = _
    rw [compile_eq]
    exact ⟨rfl, rfl⟩
  | rebuild =>
    obtain ⟨e, he⟩ := h.head
    exact shown_rebuild_of_error he

theorem Undrawn.init (h : p.Undrawn (c :: commands)) : p.Undrawn [c] := by
  refine undrawn_cons ?_ (undrawn_nil _)
  rintro rfl
  exact h.head

theorem shown_performAll (h : p.Undrawn commands) :
    (p.performAll commands).geometry = p.geometry
      ∧ (p.performAll commands).actions = p.actions := by
  induction commands generalizing p with
  | nil => exact ⟨rfl, rfl⟩
  | cons c commands ih =>
    obtain ⟨hgeometry, hactions⟩ := shown_perform h.init
    obtain ⟨hgeometry', hactions'⟩ := ih h.tail
    exact ⟨hgeometry'.trans hgeometry, hactions'.trans hactions⟩

theorem undrawn_or_exists_last (p : Plant) (commands : List Command) :
    p.Undrawn commands
      ∨ ∃ before after g, commands = before ++ .rebuild :: after
        ∧ (p.performAll before).rebuild.answer = .ok g
        ∧ (p.performAll before).rebuild.state.Undrawn after := by
  induction commands generalizing p with
  | nil => exact Or.inl p.undrawn_nil
  | cons c commands ih =>
    rcases ih (p.perform c) with hrest | ⟨before, after, g, rfl, hg, hafter⟩
    · by_cases hc : c = .rebuild ∧ ∃ g, p.rebuild.answer = .ok g
      · obtain ⟨rfl, g, hg⟩ := hc
        exact Or.inr ⟨[], commands, g, rfl, hg, hrest⟩
      · refine Or.inl (undrawn_cons (fun hrebuild => ?_) hrest)
        cases hanswer : p.rebuild.answer with
        | error e => exact ⟨e, rfl⟩
        | ok g => exact (hc ⟨hrebuild, g, hanswer⟩).elim
    · exact Or.inr ⟨c :: before, after, g, rfl, hg, hafter⟩

theorem performAll_append_rebuild (p : Plant) (before after : List Command) :
    p.performAll (before ++ .rebuild :: after)
      = (p.performAll before).rebuild.state.performAll after :=
  List.foldl_append

theorem drawing_of_rebuild {g : Geometry} (h : p.rebuild.answer = .ok g) :
    p.drawing = .ok ⟨g.text, g.trace, p.draft.tokens.actionMap⟩ := by
  rw [answer_rebuild] at h
  rw [drawing_eq_map, h]
  rfl

theorem geometry_of_rebuild (ht : p.draft.tokens.Consistent) {g : Geometry}
    (h : p.rebuild.answer = .ok g) :
    ∃ pen, p.options.pen = .ok pen
      ∧ (∀ c ∈ g.text.toList, (p.draft.tokens.actionMap.get? c).isSome = true)
      ∧ g.trace = Turtle.interpretText p.draft.tokens.actionMap pen g.text := by
  have hdrawing := drawing_of_rebuild h
  rw [drawing_eq_ofOptions ht] at hdrawing
  obtain ⟨cs, pen, hpen, hknown, htext, htrace⟩ := Drawing.exists_of_ofOptions hdrawing
  have htext : g.text = .ofList cs := htext
  refine ⟨pen, hpen, ?_, ?_⟩
  · rw [htext, String.toList_ofList]
    exact hknown
  · rw [Turtle.interpretText_eq_walk, htext, String.toList_ofList]
    exact htrace

theorem consistent_of_create {options : Options} {declarations : List Declaration} {limit : Value}
    {p₀ : Plant} (h : create options declarations limit = .ok p₀) :
    p₀.draft.tokens.Consistent := by
  obtain ⟨t, hreset, rfl⟩ := exists_of_create h
  have hstate := TokenTable.Consistent.reset declarations
  rwa [hreset] at hstate

theorem shown_of_create {options : Options} {declarations : List Declaration} {limit : Value}
    {p₀ : Plant} (h : create options declarations limit = .ok p₀) :
    p₀.geometry = none ∧ p₀.actions = p₀.draft.tokens.actionMap := by
  obtain ⟨t, -, rfl⟩ := exists_of_create h
  exact ⟨rfl, rfl⟩

theorem shows_one_snapshot {options : Options} {declarations : List Declaration} {limit : Value}
    {p₀ : Plant} (h : create options declarations limit = .ok p₀) (commands : List Command) :
    (p₀.Undrawn commands
        ∧ (p₀.performAll commands).geometry = none
        ∧ (p₀.performAll commands).vertexCount = 0
        ∧ (p₀.performAll commands).actions = p₀.draft.tokens.actionMap)
      ∨ ∃ before after g pen, commands = before ++ .rebuild :: after
        ∧ (p₀.performAll before).rebuild.answer = .ok g
        ∧ (p₀.performAll before).rebuild.state.Undrawn after
        ∧ (p₀.performAll commands).geometry = some g
        ∧ (p₀.performAll commands).actions = (p₀.performAll before).draft.tokens.actionMap
        ∧ (∀ c ∈ g.text.toList, ((p₀.performAll commands).actions.get? c).isSome = true)
        ∧ (p₀.performAll before).options.pen = .ok pen
        ∧ g.trace = Turtle.interpretText (p₀.performAll commands).actions pen g.text := by
  rcases undrawn_or_exists_last p₀ commands with
    hundrawn | ⟨before, after, g, rfl, hg, hafter⟩
  · left
    obtain ⟨hgeometry, hactions⟩ := shown_performAll hundrawn
    obtain ⟨hgeometry₀, hactions₀⟩ := shown_of_create h
    have hnone : (p₀.performAll commands).geometry = none := hgeometry.trans hgeometry₀
    refine ⟨hundrawn, hnone, ?_, hactions.trans hactions₀⟩
    rw [vertexCount, hnone]
    rfl
  · right
    obtain ⟨hgeometry, hactions⟩ := shown_performAll hafter
    rw [← performAll_append_rebuild] at hgeometry hactions
    have ht := consistent_performAll (consistent_of_create h) before
    obtain ⟨pen, hpen, hknown, htrace⟩ := geometry_of_rebuild ht hg
    -- the drawing leaves the geometry that it answers and the actions of the table
    have hattempt := hg
    rw [answer_rebuild] at hattempt
    rw [rebuild_of_ok hattempt] at hgeometry hactions
    have hshown : (p₀.performAll (before ++ .rebuild :: after)).actions
        = (p₀.performAll before).draft.tokens.actionMap := hactions
    rw [hshown]
    exact ⟨before, after, g, pen, rfl, hg, hafter, hgeometry, rfl, hknown, hpen, htrace⟩

def spoilingCommands : List Command :=
  [.rebuild, .edit (.changeToken (.text "A") (.text "C")), .edit (.removeToken (.text "B")),
    .setOptions ⟨"C", ["C"], 1, 45, 2⟩, .compile, .rebuild]

theorem shows_one_snapshot_spoilt :
    ∃ p₀, create ⟨"AB", ["A=AB"], 1, 90, 1⟩ (declare [('A', .forward), ('B', .nothing)]) .null
        = .ok p₀
      ∧ (p₀.performAll spoilingCommands).draft.tokens.actionMap = [('C', .forward)]
      ∧ (p₀.performAll spoilingCommands).geometry.map Geometry.text = some "ABB"
      ∧ ∃ before after g pen, spoilingCommands = before ++ .rebuild :: after
        ∧ (p₀.performAll before).rebuild.answer = .ok g
        ∧ (p₀.performAll before).rebuild.state.Undrawn after
        ∧ (p₀.performAll spoilingCommands).geometry = some g
        ∧ (p₀.performAll spoilingCommands).actions
            = (p₀.performAll before).draft.tokens.actionMap
        ∧ (∀ c ∈ g.text.toList,
            ((p₀.performAll spoilingCommands).actions.get? c).isSome = true)
        ∧ (p₀.performAll before).options.pen = .ok pen
        ∧ g.trace
            = Turtle.interpretText (p₀.performAll spoilingCommands).actions pen g.text := by
  obtain ⟨p₀, h₀⟩ : ∃ p₀, create ⟨"AB", ["A=AB"], 1, 90, 1⟩
      (declare [('A', .forward), ('B', .nothing)]) .null = .ok p₀ := ⟨_, rfl⟩
  have htable : (p₀.performAll spoilingCommands).draft.tokens.actionMap = [('C', .forward)] := by
    cases h₀
    decide +kernel
  have htext : (p₀.performAll spoilingCommands).geometry.map Geometry.text = some "ABB" := by
    cases h₀
    decide +kernel
  refine ⟨p₀, h₀, htable, htext, ?_⟩
  rcases shows_one_snapshot h₀ spoilingCommands with ⟨-, hnone, -⟩ | hsnapshot
  · rw [hnone] at htext
    cases htext
  · exact hsnapshot

end Plant

end LSystem
