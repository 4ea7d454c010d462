import LSystem.Garden
import LSystem.Proofs.Plant.Rebuild

namespace LSystem

structure Drawn where
  plant : Nat
  geometry : Geometry
  actions : Dictionary Char Action

namespace Garden

theorem plant?_eq_some {g : Garden} {id : Key} {n : Nat} {p : Plant}
    (h : g.plant? id = some (n, p)) :
    id.plantNumber? = some n ∧ g.plants.get? n = some p := by
  simp only [plant?, Option.bind_eq_bind, Option.bind_eq_some_iff] at h
  obtain ⟨m, hm, q, hq, heq⟩ := h
  cases heq
  exact ⟨hm, hq⟩

theorem plant?_eq_none {g : Garden} {id : Key} {n : Nat} (h : g.plant? id = none)
    (hid : id.plantNumber? = some n) :
    g.plants.get? n = none := by
  cases hn : g.plants.get? n with
  | none => rfl
  | some p => simp [plant?, hid, hn] at h

def latest (initial : Dictionary Char Action) (log : List Drawn) (n : Nat) :
    Option Geometry × Dictionary Char Action :=
  match (log.filter fun d => d.plant = n).getLast? with
  | some d => (some d.geometry, d.actions)
  | none => (none, initial)

theorem latest_append_self (initial : Dictionary Char Action) (log : List Drawn) (d : Drawn) :
    latest initial (log ++ [d]) d.plant = (some d.geometry, d.actions) := by
  simp [latest]

theorem latest_append_of_ne (initial : Dictionary Char Action) (log : List Drawn) {d : Drawn}
    {n : Nat} (h : d.plant ≠ n) : latest initial (log ++ [d]) n = latest initial log n := by
  simp [latest, h]

theorem latest_of_forall_ne (initial : Dictionary Char Action) {log : List Drawn} {n : Nat}
    (h : ∀ d ∈ log, d.plant ≠ n) : latest initial log n = (none, initial) := by
  have hnone : (log.filter fun d => d.plant = n) = [] := by simpa using h
  rw [latest, hnone]
  rfl

end Garden

def Plant.drawn (n : Nat) (p : Plant) : List Drawn :=
  match p.rebuild.answer with
  | .ok g => [⟨n, g, p.draft.tokens.actionMap⟩]
  | .error _ => []

theorem Plant.plant_of_mem_drawn {n : Nat} {p : Plant} {d : Drawn} (h : d ∈ p.drawn n) :
    d.plant = n := by
  unfold drawn at h
  split at h
  · rw [List.mem_singleton.mp h]
  · cases h

namespace Garden

theorem latest_append_drawn_of_ne (initial : Dictionary Char Action) (log : List Drawn) (p : Plant)
    {n m : Nat} (h : n ≠ m) : latest initial (log ++ p.drawn n) m = latest initial log m := by
  unfold Plant.drawn
  split
  · exact latest_append_of_ne initial log h
  · rw [List.append_nil]

theorem shown_rebuild {initial : Dictionary Char Action} {log : List Drawn} {n : Nat} {p : Plant}
    (h : (p.geometry, p.actions) = latest initial log n) :
    (p.rebuild.state.geometry, p.rebuild.state.actions) = latest initial (log ++ p.drawn n) n := by
  unfold Plant.drawn
  rw [Plant.answer_rebuild]
  cases hattempt : Plant.attempt p.draft.tokens p.options p.limit with
  | error e =>
    rw [Plant.rebuild_of_error hattempt, List.append_nil]
    exact h
  | ok g =>
    rw [Plant.rebuild_of_ok hattempt]
    exact (latest_append_self initial log ⟨n, g, p.draft.tokens.actionMap⟩).symm

namespace Round

def drawn (r : Round) : Event → List Drawn
  | .rebuild id =>
    match r.garden.plant? id with
    | some (n, p) => p.drawn n
    | none => []
  | _ => []

def drawnAll (r : Round) : List Event → List Drawn
  | [] => []
  | e :: rest =>
    r.drawn e ++ match r.handle e with
      | ⟨r, .ok _⟩ => r.drawnAll rest
      | ⟨_, .error _⟩ => []

theorem rebuilt_edit (r : Round) (id : Key) (c : Draft.Command) :
    (r.edit id c).report.rebuilt = r.report.rebuilt := by
  unfold edit
  cases r.garden.plant? id with
  | none => rfl
  | some entry =>
    obtain ⟨n, p⟩ := entry
    dsimp only
    rcases p.edit c with ⟨q, cause | reply⟩
    · rfl
    · dsimp only
      split <;> rfl

theorem rebuilt_updateOptions (r : Round) (id : Key) (o : Options) :
    (r.updateOptions id o).report.rebuilt = r.report.rebuilt := by
  unfold updateOptions
  cases r.garden.plant? id with
  | none => rfl
  | some entry =>
    obtain ⟨n, p⟩ := entry
    dsimp only
    split <;> rfl

theorem rebuilt_rebuild (r : Round) (id : Key) :
    ∃ ids, (r.rebuild id).state.report.rebuilt = r.report.rebuilt ++ ids
      ∧ ids.map Key.plantNumber? = (r.drawn (.rebuild id)).map fun d => some d.plant := by
  unfold rebuild
  cases hplant : r.garden.plant? id with
  | none => exact ⟨[], by simp [Outcome.ok, drawn, hplant]⟩
  | some entry =>
    obtain ⟨n, p⟩ := entry
    have hid : id.plantNumber? = some n := (plant?_eq_some hplant).1
    dsimp only
    rcases hrebuild : p.rebuild with ⟨q, cause | geometry⟩
    · refine ⟨[], ?_, by simp [drawn, hplant, Plant.drawn, hrebuild]⟩
      dsimp only
      cases cause.ending? <;> simp [Outcome.ok, Outcome.fail, warn]
    · exact ⟨[id], rfl, by simp [drawn, hplant, Plant.drawn, hrebuild, hid]⟩

theorem rebuilt_handle (r : Round) (e : Event) :
    ∃ ids, (r.handle e).state.report.rebuilt = r.report.rebuilt ++ ids
      ∧ ids.map Key.plantNumber? = (r.drawn e).map fun d => some d.plant := by
  cases e with
  | rebuild id => exact r.rebuilt_rebuild id
  | spawn options =>
    refine ⟨[], ?_, rfl⟩
    rw [handle, List.append_nil]
    rcases r.garden.addPlant options with ⟨g, cause | n⟩ <;> rfl
  | addToken id symbol action =>
    exact ⟨[], (r.rebuilt_edit id _).trans (List.append_nil _).symm, rfl⟩
  | removeToken id symbol =>
    exact ⟨[], (r.rebuilt_edit id _).trans (List.append_nil _).symm, rfl⟩
  | changeToken id former symbol =>
    exact ⟨[], (r.rebuilt_edit id _).trans (List.append_nil _).symm, rfl⟩
  | changeAction id symbol action =>
    exact ⟨[], (r.rebuilt_edit id _).trans (List.append_nil _).symm, rfl⟩
  | updateOptions id o =>
    exact ⟨[], (r.rebuilt_updateOptions id o).trans (List.append_nil _).symm, rfl⟩

theorem rebuilt_handleAll (r : Round) (events : List Event) :
    ∃ ids, (r.handleAll events).state.report.rebuilt = r.report.rebuilt ++ ids
      ∧ ids.map Key.plantNumber? = (r.drawnAll events).map fun d => some d.plant := by
  induction events generalizing r with
  | nil => exact ⟨[], (List.append_nil _).symm, rfl⟩
  | cons e rest ih =>
    obtain ⟨first, hfirst, hdrawn⟩ := r.rebuilt_handle e
    rw [handleAll, drawnAll]
    rcases hhandle : r.handle e with ⟨next, cause | _⟩
    · rw [hhandle] at hfirst
      exact ⟨first, hfirst, by rw [hdrawn, List.append_nil]⟩
    · rw [hhandle] at hfirst
      obtain ⟨others, hothers, hrest⟩ := ih next
      refine ⟨first ++ others, ?_, ?_⟩
      · rw [hothers, show next.report.rebuilt = _ from hfirst, List.append_assoc]
      · rw [List.map_append, List.map_append, hdrawn, hrest]

end Round

def drawnInStep (g : Garden) : List Drawn :=
  Round.drawnAll ⟨{ g with queue := [] }, [], .empty⟩ g.queue

theorem rebuilt_step {g : Garden} {report : Report} (h : g.step.answer = .ok report) :
    report.rebuilt.map Key.plantNumber? = g.drawnInStep.map fun d => some d.plant := by
  obtain ⟨ids, hrebuilt, hids⟩ :=
    Round.rebuilt_handleAll ⟨{ g with queue := [] }, [], .empty⟩ g.queue
  rw [step] at h
  rcases hall : Round.handleAll ⟨{ g with queue := [] }, [], .empty⟩ g.queue with ⟨r, cause | _⟩
  · rw [hall] at h
    cases h
  · rw [hall] at h hrebuilt
    obtain rfl : r.report = report := Except.ok.inj h
    rw [show r.report.rebuilt = ids from hrebuilt]
    exact hids

def drawnInRun (g : Garden) : Nat → List Drawn
  | 0 => []
  | n + 1 =>
    if g.queue.isEmpty then []
    else
      g.drawnInStep ++ match g.step with
        | ⟨g, .ok _⟩ => g.drawnInRun n
        | ⟨_, .error _⟩ => []

inductive Call where
  | post (e : Event)
  | spawn (options : Option Options)
  | step
  | runUntilIdle (steps : Value)

def call (g : Garden) : Call → Garden
  | .post e => g.post e
  | .spawn options => (g.spawn options).state
  | .step => g.step.state
  | .runUntilIdle steps => (g.runUntilIdle steps).state

def drawnInCall (g : Garden) : Call → List Drawn
  | .post _ => []
  | .spawn _ => []
  | .step => g.drawnInStep
  | .runUntilIdle steps =>
    match steps.toInteger with
    | .ok n => g.drawnInRun n.toNat
    | .error _ => []

def callAll (g : Garden) (calls : List Call) : Garden :=
  calls.foldl call g

def log (g : Garden) : List Call → List Drawn
  | [] => []
  | c :: rest => g.drawnInCall c ++ (g.call c).log rest

end Garden

end LSystem
