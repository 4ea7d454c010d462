import LSystem.Proofs.Garden.Invariant
import LSystem.Proofs.Token.Declared

namespace LSystem

namespace Garden

variable {g : Garden} {t : TokenTable} {log : List Drawn} {n : Nat} {p q : Plant}

namespace Round

def pending (r : Round) : List Event :=
  r.garden.queue ++ r.derived

/-- The garden is sound after an event: if the step goes on, the events in `rest` are still to be
taken in it, and if it has ended nothing needs to wait. -/
def SoundAfter (t : TokenTable) (rest : List Event) (log : List Drawn) :
    Outcome Round GardenError Unit → Prop
  | ⟨r, .ok _⟩ => r.garden.Sound t (rest ++ r.pending) log
  | ⟨r, .error _⟩ => ∀ events, r.garden.Sound t events log

variable {r : Round} {rest : List Event}

theorem soundAfter_rebuild {id : Key}
    (h : r.garden.Sound t (.rebuild id :: (rest ++ r.pending)) log) :
    SoundAfter t rest (log ++ r.drawn (.rebuild id)) (r.rebuild id) := by
  cases hplant : r.garden.plant? id with
  | none =>
    have hdrawn : r.drawn (.rebuild id) = [] := by simp [drawn, hplant]
    have hrebuild : r.rebuild id = .ok r () := by simp [rebuild, hplant]
    rw [hdrawn, hrebuild, List.append_nil]
    exact h.skipRebuild hplant
  | some entry =>
    obtain ⟨n, p⟩ := entry
    have hdrawn : r.drawn (.rebuild id) = p.drawn n := by simp [drawn, hplant]
    have hgarden := h.takeRebuild hplant
    rw [hdrawn, rebuild, hplant]
    dsimp only
    rcases hrebuild : p.rebuild with ⟨q, e | geometry⟩
    · rw [hrebuild] at hgarden
      cases hending : e.ending? with
      | none =>
        simp only [hending]
        exact hgarden
      | some cause =>
        have hanswer : p.rebuild.answer = .error e := by rw [hrebuild]
        have hlimit := Plant.ending_rebuild hanswer hending
        have hlimited := (h.kept n p (plant?_eq_some hplant).2).limited
        simp only [hending]
        exact hgarden.settle (hlimited ▸ hlimit)
    · rw [hrebuild] at hgarden
      exact hgarden

theorem subset_request (rest : List Event) (r : Round) (id : Key) :
    rest ++ r.pending ⊆ rest ++ (r.garden.queue ++ (r.derived ++ [.rebuild id])) := by
  rw [← List.append_assoc r.garden.queue, ← List.append_assoc rest]
  exact List.subset_append_left _ _

theorem awaits_request (rest : List Event) (r : Round) {id : Key}
    (h : id.plantNumber? = some n) :
    Awaits (rest ++ (r.garden.queue ++ (r.derived ++ [.rebuild id]))) n :=
  ⟨id, by simp, h⟩

theorem sound_request {id : Key} (h : r.garden.Sound t (rest ++ r.pending) log)
    (hplant : r.garden.plant? id = some (n, p)) (hlimit : q.limit = p.limit)
    (hshown : (q.geometry, q.actions) = (p.geometry, p.actions)) :
    (({ r with garden := r.garden.setPlant n q } : Round).request id).garden.Sound t
      (rest ++ (({ r with garden := r.garden.setPlant n q } : Round).request id).pending) log := by
  obtain ⟨hid, hp⟩ := plant?_eq_some hplant
  exact (h.mono (subset_request rest r id)).setPlant hp hlimit hshown
    (Or.inr (awaits_request rest r hid))

theorem sound_edit {c : Draft.Command} (hc : c.isTokenEdit = true)
    (h : r.garden.Sound t (rest ++ r.pending) log) (id : Key) :
    (r.edit id c).garden.Sound t (rest ++ (r.edit id c).pending) log := by
  unfold edit
  cases hplant : r.garden.plant? id with
  | none => exact h
  | some entry =>
    obtain ⟨n, p⟩ := entry
    obtain ⟨hid, hp⟩ := plant?_eq_some hplant
    have hkeep := h.setPlant hp (q := p) rfl rfl (h.kept n p hp).settled
    have hunchanged := Draft.state_perform_of_unchanged (d := p.draft) hc
    dsimp only [Plant.edit, Outcome.lift]
    rcases hperform : p.draft.perform c with ⟨d, cause | reply⟩
    · rw [hperform] at hunchanged
      obtain rfl : d = p.draft := hunchanged fun _ hreply => nomatch hreply
      exact hkeep
    · dsimp only
      split
      · exact sound_request h hplant rfl rfl
      · next hsame =>
        rw [hperform] at hunchanged
        obtain rfl : d = p.draft := by
          refine hunchanged fun reply' hreply => ?_
          cases hreply
          exact Bool.eq_false_iff.mpr hsame
        exact hkeep

theorem sound_updateOptions (h : r.garden.Sound t (rest ++ r.pending) log) (id : Key)
    (o : Options) :
    (r.updateOptions id o).garden.Sound t (rest ++ (r.updateOptions id o).pending) log := by
  unfold updateOptions
  cases hplant : r.garden.plant? id with
  | none => exact h
  | some entry =>
    obtain ⟨n, p⟩ := entry
    dsimp only
    split
    · exact h
    · exact sound_request h hplant rfl rfl

theorem soundAfter_spawn (h : r.garden.Sound t (rest ++ r.pending) log) (options : Option Options) :
    SoundAfter t rest log (r.handle (.spawn options)) := by
  obtain ⟨hanswer, hqueue, hsound⟩ := h.addPlant options (subset_request rest r _)
    (awaits_request rest r (plantNumber?_ofNat _))
  rw [handle]
  rcases hadd : r.garden.addPlant options with ⟨g, e | n⟩
  · rw [hadd] at hanswer
    cases hanswer
  · rw [hadd] at hanswer hqueue hsound
    obtain rfl : n = r.garden.nextPlant := Except.ok.inj hanswer
    change g.Sound t
      (rest ++ (g.queue ++ (r.derived ++ [.rebuild (.ofNat r.garden.nextPlant)]))) log
    rw [show g.queue = r.garden.queue from hqueue]
    exact hsound

theorem soundAfter_handle (e : Event) (h : r.garden.Sound t (e :: (rest ++ r.pending)) log) :
    SoundAfter t rest (log ++ r.drawn e) (r.handle e) := by
  by_cases hrebuild : ∃ id, e = .rebuild id
  · obtain ⟨id, rfl⟩ := hrebuild
    exact soundAfter_rebuild h
  · have hold : r.garden.Sound t (rest ++ r.pending) log := by
      refine h.drop fun n p _ hawaits => ?_
      obtain ⟨id, hid, -⟩ := hawaits
      exact (hrebuild ⟨id, (List.mem_singleton.mp hid).symm⟩).elim
    have hnone : r.drawn e = [] := by
      unfold drawn
      split
      · exact (hrebuild ⟨_, rfl⟩).elim
      · rfl
    rw [hnone, List.append_nil]
    cases e with
    | rebuild id => exact (hrebuild ⟨id, rfl⟩).elim
    | spawn options => exact soundAfter_spawn hold options
    | addToken id symbol action => exact sound_edit rfl hold id
    | removeToken id symbol => exact sound_edit rfl hold id
    | changeToken id former symbol => exact sound_edit rfl hold id
    | changeAction id symbol action => exact sound_edit rfl hold id
    | updateOptions id o => exact sound_updateOptions hold id o

theorem soundAfter_handleAll (h : r.garden.Sound t (rest ++ r.pending) log) :
    SoundAfter t [] (log ++ r.drawnAll rest) (r.handleAll rest) := by
  induction rest generalizing r log with
  | nil =>
    rw [drawnAll, List.append_nil]
    exact h
  | cons e rest ih =>
    have hnext := soundAfter_handle e h
    rw [drawnAll, handleAll, ← List.append_assoc]
    rcases hhandle : r.handle e with ⟨next, cause | _⟩
    · rw [hhandle] at hnext
      rw [List.append_nil]
      exact hnext
    · rw [hhandle] at hnext
      exact ih hnext

end Round

theorem Sound.step (h : g.Sound t g.queue log) :
    g.step.state.Sound t g.step.state.queue (log ++ g.drawnInStep) := by
  have hstart : ({ g with queue := [] } : Garden).Sound t (g.queue ++ []) log :=
    (h.setQueue []).mono (List.subset_append_left _ _)
  have hround := Round.soundAfter_handleAll (r := ⟨{ g with queue := [] }, [], .empty⟩) hstart
  rw [Garden.step, drawnInStep]
  rcases hall : Round.handleAll ⟨{ g with queue := [] }, [], .empty⟩ g.queue with ⟨r, cause | _⟩
  · rw [hall] at hround
    exact hround r.garden.queue
  · rw [hall] at hround
    exact setQueue hround _

theorem Sound.runFor (h : g.Sound t g.queue log) (report : Report) (n : Nat) :
    (g.runFor report n).state.Sound t (g.runFor report n).state.queue (log ++ g.drawnInRun n) := by
  induction n generalizing g log report with
  | zero =>
    rw [drawnInRun, List.append_nil]
    exact h
  | succ n ih =>
    rw [Garden.runFor, drawnInRun]
    split
    · rw [List.append_nil]
      exact h
    · have hstep := h.step
      rw [← List.append_assoc]
      rcases hone : g.step with ⟨next, cause | more⟩
      · rw [hone] at hstep
        rw [List.append_nil]
        exact hstep
      · rw [hone] at hstep
        exact ih hstep _

theorem Sound.call (h : g.Sound t g.queue log) (c : Call) :
    (g.call c).Sound t (g.call c).queue (log ++ g.drawnInCall c) := by
  cases c with
  | post e =>
    rw [drawnInCall, List.append_nil]
    exact (h.mono (List.subset_append_left _ _)).setQueue _
  | spawn options =>
    have hawaits : Awaits (g.queue ++ [.rebuild (.ofNat g.nextPlant)]) g.nextPlant :=
      (awaits_rebuild_iff.mpr (plantNumber?_ofNat _)).mono (List.subset_append_right _ _)
    obtain ⟨hanswer, hqueue, hsound⟩ := h.addPlant options (List.subset_append_left _ _) hawaits
    rw [drawnInCall, List.append_nil, Garden.call, Garden.spawn]
    rcases hadd : g.addPlant options with ⟨next, cause | m⟩
    · rw [hadd] at hanswer
      cases hanswer
    · rw [hadd] at hanswer hqueue hsound
      obtain rfl : m = g.nextPlant := Except.ok.inj hanswer
      change (next.post (.rebuild (.ofNat g.nextPlant))).Sound t
        (next.queue ++ [.rebuild (.ofNat g.nextPlant)]) log
      rw [show next.queue = g.queue from hqueue]
      exact hsound.setQueue _
  | step => exact h.step
  | runUntilIdle steps =>
    rw [Garden.call, runUntilIdle, drawnInCall]
    cases steps.toInteger with
    | error cause =>
      rw [List.append_nil]
      exact h
    | ok n => exact h.runFor _ n.toNat

theorem Sound.callAll (h : g.Sound t g.queue log) (calls : List Call) :
    (g.callAll calls).Sound t (g.callAll calls).queue (log ++ g.log calls) := by
  induction calls generalizing g log with
  | nil =>
    rw [Garden.log, List.append_nil]
    exact h
  | cons c calls ih =>
    rw [Garden.log, ← List.append_assoc]
    exact ih (h.call c)

theorem sound_create {declarations : List Declaration}
    (h : TokenTable.reset declarations = .ok t ()) (options : Options) (limit : Value) :
    (create declarations options limit).Sound t [] [] := by
  refine ⟨h, fun d hd => ?_, fun n p hp => ?_⟩
  · cases hd
  · cases hp

theorem step_rebuild {id : Key} (h : g.queue = [.rebuild id])
    (hplant : g.plant? id = some (n, p)) :
    g.step.state = { g.setPlant n p.rebuild.state with queue := [] } := by
  have hplant : ({ g with queue := [] } : Garden).plant? id = some (n, p) := hplant
  simp only [Garden.step, h, Round.handleAll, Round.handle, Round.rebuild, hplant]
  rcases p.rebuild with ⟨q, cause | geometry⟩
  · dsimp only
    cases cause.ending? <;> rfl
  · rfl

theorem callAll_spawn_step {declarations : List Declaration}
    (h : TokenTable.reset declarations = .ok t ()) (options : Options) (limit : Value) :
    (create declarations options limit).callAll [.spawn none, .step]
      = ⟨declarations, options, limit,
          [(0, (Plant.mk options (.ofTokens t) limit none t.actionMap).rebuild.state)], 1, []⟩ := by
  have hadd := addPlant_eq (g := create declarations options limit) h none
  have hspawn : ((create declarations options limit).spawn none).state
      = ⟨declarations, options, limit, [(0, ⟨options, .ofTokens t, limit, none, t.actionMap⟩)], 1,
          [.rebuild (.ofNat 0)]⟩ := by
    rw [Garden.spawn, hadd]
    rfl
  change ((create declarations options limit).spawn none).state.step.state = _
  rw [hspawn, step_rebuild rfl rfl]
  rfl

theorem idle_plants_are_current {declarations : List Declaration}
    (hvalid : TokenTable.reset declarations = .ok t ()) (options : Options) (limit : Value)
    (calls : List Call) (hidle : ((create declarations options limit).callAll calls).queue = [])
    (hp : ((create declarations options limit).callAll calls).plants.get? n = some p) :
    (∀ grammar ids pen, p.compile.answer = .ok grammar →
        grammar.expandUnder p.options.iterations p.limit = .ok ids → p.options.pen = .ok pen →
        p.geometry = some ⟨grammar, ids, Turtle.interpret p.draft.tokens.actionOf pen ids⟩
          ∧ p.actions = p.draft.tokens.actionMap)
      ∧ (p.geometry, p.actions)
          = latest t.actionMap ((create declarations options limit).log calls) n := by
  have hsound := (sound_create hvalid options limit).callAll calls
  rw [hidle] at hsound
  obtain ⟨-, -, hshown, hsettled⟩ := hsound.kept n p hp
  refine ⟨?_, hshown⟩
  intro grammar ids pen hgrammar hids hpen
  rcases hsettled with hsettled | hawaits
  · exact hsettled _ (Plant.rebuild_eq_ok_iff.mpr ⟨grammar, ids, pen, hgrammar, hids, hpen, rfl⟩)
  · obtain ⟨id, hid, -⟩ := hawaits
    cases hid

theorem idle_plants_are_current_after_spawn :
    ∃ p, ((create (declare standardTokens) .bush .null).callAll [.spawn none, .step]).queue = []
      ∧ ((create (declare standardTokens) .bush .null).callAll [.spawn none, .step]).plants.get? 0
          = some p
      ∧ (∀ grammar ids pen, p.compile.answer = .ok grammar →
          grammar.expandUnder p.options.iterations p.limit = .ok ids → p.options.pen = .ok pen →
          p.geometry = some ⟨grammar, ids, Turtle.interpret p.draft.tokens.actionOf pen ids⟩
            ∧ p.actions = p.draft.tokens.actionMap)
      ∧ (p.geometry, p.actions)
          = latest (TokenTable.listed standardTokens).actionMap
              ((create (declare standardTokens) .bush .null).log [.spawn none, .step]) 0 := by
  have hvalid := TokenTable.reset_declare standardTokens
  have hcalls := callAll_spawn_step hvalid .bush .null
  have hidle : ((create (declare standardTokens) .bush .null).callAll [.spawn none, .step]).queue
      = [] := by
    rw [hcalls]
  obtain ⟨p, hp⟩ : ∃ p, ((create (declare standardTokens) .bush .null).callAll
      [.spawn none, .step]).plants.get? 0 = some p := by
    rw [hcalls]
    exact ⟨_, rfl⟩
  exact ⟨p, hidle, hp, idle_plants_are_current hvalid .bush .null [.spawn none, .step] hidle hp⟩

end Garden

end LSystem
