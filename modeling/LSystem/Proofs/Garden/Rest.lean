import LSystem.Proofs.Garden.Events
import LSystem.Proofs.Token.Declared

namespace LSystem

namespace Garden

variable {g : Garden} {r : Round} {e : Event}

def IsRequest (g : Garden) (e : Event) : Prop :=
  ∃ id n p, e = .rebuild id ∧ g.plant? id = some (n, p)

theorem plant?_of_get? {id : Key} {n : Nat} {p : Plant} (hid : id.plantNumber? = some n)
    (hp : g.plants.get? n = some p) : g.plant? id = some (n, p) := by
  simp [plant?, hid, hp]

theorem isRequest_of_setPlant {id : Key} {n : Nat} (hid : id.plantNumber? = some n) (p : Plant) :
    (g.setPlant n p).IsRequest (.rebuild id) :=
  ⟨id, n, p, rfl, plant?_of_get? hid (Dictionary.get?_put_self g.plants n p)⟩

theorem IsRequest.setPlant (h : g.IsRequest e) (n : Nat) (p : Plant) :
    (g.setPlant n p).IsRequest e := by
  obtain ⟨id, m, q, rfl, hplant⟩ := h
  obtain ⟨hm, hq⟩ := plant?_eq_some hplant
  by_cases hn : m = n
  · subst hn
    exact isRequest_of_setPlant hm p
  · refine ⟨id, m, q, rfl, plant?_of_get? hm ?_⟩
    exact (Dictionary.get?_put_of_ne g.plants p hn).trans hq

namespace Round

/-- A round in which nothing is put into the queue, and what waits for the next step are drawings of
plants that exist. -/
structure Orderly (r : Round) : Prop where
  queue : r.garden.queue = []
  derived : ∀ e ∈ r.derived, r.garden.IsRequest e

theorem orderly_idle (g : Garden) : Orderly ⟨g.idle, [], .empty⟩ :=
  ⟨rfl, nofun⟩

namespace Orderly

theorem setPlant (h : r.Orderly) (n : Nat) (p : Plant) (report : Report) :
    Orderly ⟨r.garden.setPlant n p, r.derived, report⟩ :=
  ⟨h.queue, fun e he => (h.derived e he).setPlant n p⟩

theorem request (h : r.Orderly) {id : Key} (hid : r.garden.IsRequest (.rebuild id)) :
    (r.request id).Orderly := by
  refine ⟨h.queue, fun e he => ?_⟩
  rcases List.mem_append.mp he with he | he
  · exact h.derived e he
  · obtain rfl := List.mem_singleton.mp he
    exact hid

theorem edit (h : r.Orderly) (id : Key) (c : Draft.Command) : (r.edit id c).Orderly := by
  unfold Round.edit
  cases hplant : r.garden.plant? id with
  | none => exact h
  | some entry =>
    obtain ⟨n, p⟩ := entry
    have hid := (plant?_eq_some hplant).1
    dsimp only
    rcases p.edit c with ⟨q, cause | reply⟩
    · exact h.setPlant n q _
    · dsimp only
      split
      · exact (h.setPlant n q _).request (isRequest_of_setPlant hid q)
      · exact h.setPlant n q _

theorem updateOptions (h : r.Orderly) (id : Key) (o : Options) :
    (r.updateOptions id o).Orderly := by
  unfold Round.updateOptions
  cases hplant : r.garden.plant? id with
  | none => exact h
  | some entry =>
    obtain ⟨n, p⟩ := entry
    have hid := (plant?_eq_some hplant).1
    dsimp only
    split
    · exact h
    · exact (h.setPlant n _ _).request (isRequest_of_setPlant hid _)

theorem rebuild (h : r.Orderly) (id : Key) : (r.rebuild id).state.Orderly := by
  unfold Round.rebuild
  cases r.garden.plant? id with
  | none => exact h
  | some entry =>
    obtain ⟨n, p⟩ := entry
    dsimp only
    rcases p.rebuild with ⟨q, cause | geometry⟩
    · dsimp only
      cases cause.ending? with
      | none => exact h.setPlant n q _
      | some mismatch => exact h.setPlant n q _
    · exact h.setPlant n q _

theorem spawn (h : r.Orderly) (options : Option Options) :
    (r.handle (.spawn options)).state.Orderly := by
  rw [Round.handle, addPlant]
  cases Plant.create (options.getD r.garden.options) r.garden.declarations r.garden.limit with
  | error cause => exact ⟨h.queue, h.derived⟩
  | ok p =>
    have hnumber : (Key.ofNat r.garden.nextPlant).plantNumber? = some r.garden.nextPlant :=
      plantNumber?_ofNat _
    exact (setPlant (r := ⟨{ r.garden with nextPlant := r.garden.nextPlant + 1 }, r.derived,
      r.report⟩) ⟨h.queue, h.derived⟩ _ p _).request (isRequest_of_setPlant hnumber p)

theorem handle (h : r.Orderly) (e : Event) : (r.handle e).state.Orderly := by
  cases e with
  | spawn options => exact h.spawn options
  | rebuild id => exact h.rebuild id
  | addToken id symbol action => exact h.edit id _
  | removeToken id symbol => exact h.edit id (.removeToken symbol)
  | changeToken id former symbol => exact h.edit id _
  | changeAction id symbol action => exact h.edit id _
  | updateOptions id o => exact h.updateOptions id o

theorem handleAll (h : r.Orderly) (events : List Event) :
    (r.handleAll events).state.Orderly := by
  induction events generalizing r with
  | nil => exact h
  | cons e rest ih =>
    have hone := h.handle e
    rw [Round.handleAll]
    rcases hhandle : r.handle e with ⟨next, cause | _⟩ <;> rw [hhandle] at hone
    · exact hone
    · exact ih hone

end Orderly

theorem derived_rebuild (r : Round) (id : Key) : (r.rebuild id).state.derived = r.derived := by
  unfold rebuild
  cases r.garden.plant? id with
  | none => rfl
  | some entry =>
    obtain ⟨n, p⟩ := entry
    dsimp only
    rcases p.rebuild with ⟨q, cause | geometry⟩
    · dsimp only
      cases cause.ending? <;> rfl
    · rfl

theorem derived_handleAll {events : List Event} (h : ∀ e ∈ events, ∃ id, e = .rebuild id)
    (r : Round) : (r.handleAll events).state.derived = r.derived := by
  induction events generalizing r with
  | nil => rfl
  | cons e rest ih =>
    obtain ⟨id, rfl⟩ := h e List.mem_cons_self
    have hone := r.derived_rebuild id
    rw [Round.handleAll, Round.handle]
    rcases hhandle : r.rebuild id with ⟨next, cause | _⟩ <;> rw [hhandle] at hone
    · exact hone
    · exact (ih (fun e he => h e (List.mem_cons_of_mem _ he)) next).trans hone

end Round

theorem step_cases (g : Garden) :
    ∃ r : Round, r.Orderly ∧ ((∀ e ∈ g.queue, ∃ id, e = .rebuild id) → r.derived = [])
      ∧ (g.step = .ok { r.garden with queue := r.derived } r.report
          ∨ ∃ cause, g.step = .fail r.garden cause) := by
  have horderly := (Round.orderly_idle g).handleAll g.queue
  have hderived : (∀ e ∈ g.queue, ∃ id, e = .rebuild id) →
      (Round.handleAll ⟨g.idle, [], .empty⟩ g.queue).state.derived = [] :=
    fun h => Round.derived_handleAll h _
  rw [step]
  simp only [idle] at horderly hderived ⊢
  rcases hall : Round.handleAll ⟨{ g with queue := [] }, [], .empty⟩ g.queue with ⟨r, cause | _⟩ <;>
    rw [hall] at horderly hderived
  · exact ⟨r, horderly, hderived, Or.inr ⟨cause, rfl⟩⟩
  · have hqueue : r.garden.queue = [] := horderly.queue
    refine ⟨r, horderly, hderived, Or.inl ?_⟩
    simp only [hqueue, List.nil_append]

theorem isRequest_of_mem_queue_step (g : Garden) {e : Event} (he : e ∈ g.step.state.queue) :
    g.step.state.IsRequest e := by
  obtain ⟨r, horderly, -, hstep | ⟨cause, hstep⟩⟩ := g.step_cases
  · rw [hstep] at he ⊢
    exact horderly.derived e he
  · rw [hstep] at he
    rw [show (Outcome.fail r.garden cause : Outcome Garden GardenError Report).state.queue = [] from
      horderly.queue] at he
    cases he

theorem queue_step_of_requests (h : ∀ e ∈ g.queue, ∃ id, e = .rebuild id) :
    g.step.state.queue = [] := by
  obtain ⟨r, horderly, hderived, hstep | ⟨cause, hstep⟩⟩ := g.step_cases <;> rw [hstep]
  · exact hderived h
  · exact horderly.queue

theorem queue_step_step (g : Garden) : g.step.state.step.state.queue = [] := by
  refine queue_step_of_requests fun e he => ?_
  obtain ⟨id, -, -, rfl, -⟩ := g.isRequest_of_mem_queue_step he
  exact ⟨id, rfl⟩

theorem queue_step_of_error (g : Garden) (cause : GardenError) (h : g.step.answer = .error cause) :
    g.step.state.queue = [] := by
  obtain ⟨r, horderly, -, hstep | ⟨_, hstep⟩⟩ := g.step_cases <;> rw [hstep] at h ⊢
  · cases h
  · exact horderly.queue

theorem drawnInStep_of_idle (h : g.queue = []) : g.drawnInStep = [] := by
  rw [drawnInStep, h]
  rfl

theorem runFor_of_idle (h : g.queue = []) (report : Report) (n : Nat) :
    g.runFor report n = .ok g report := by
  cases n with
  | zero => rfl
  | succ n => rw [runFor, h]; rfl

theorem drawnInRun_of_idle (h : g.queue = []) (n : Nat) : g.drawnInRun n = [] := by
  cases n with
  | zero => rfl
  | succ n => rw [drawnInRun, h]; rfl

theorem append_empty (a : Report) : a.append .empty = a := by
  simp [Report.append, Report.empty]

theorem runFor_succ (g : Garden) (report : Report) (n : Nat) :
    g.runFor report (n + 1) = match g.step with
      | ⟨g, .ok more⟩ => g.runFor (report.append more) n
      | ⟨g, .error e⟩ => .fail g e := by
  rw [runFor]
  split
  · next hempty =>
    have hidle := List.isEmpty_iff.mp hempty
    rw [step_of_idle hidle]
    change _ = g.runFor (report.append .empty) n
    rw [append_empty, runFor_of_idle hidle]
  · rfl

theorem drawnInRun_succ (g : Garden) (n : Nat) :
    g.drawnInRun (n + 1) = g.drawnInStep ++ match g.step with
      | ⟨g, .ok _⟩ => g.drawnInRun n
      | ⟨_, .error _⟩ => [] := by
  rw [drawnInRun]
  split
  · next hempty =>
    have hidle := List.isEmpty_iff.mp hempty
    rw [step_of_idle hidle, drawnInStep_of_idle hidle]
    exact (drawnInRun_of_idle hidle n).symm
  · rfl

def stepTwice (g : Garden) : Outcome Garden GardenError Report :=
  match g.step with
  | ⟨g, .error e⟩ => .fail g e
  | ⟨g, .ok first⟩ =>
    match g.step with
    | ⟨g, .error e⟩ => .fail g e
    | ⟨g, .ok second⟩ => .ok g (first.append second)

def drawnTwice (g : Garden) : List Drawn :=
  g.drawnInStep ++ match g.step with
    | ⟨g, .ok _⟩ => g.drawnInStep
    | ⟨_, .error _⟩ => []

theorem queue_stepTwice (g : Garden) : g.stepTwice.state.queue = [] := by
  have hfirst := g.queue_step_of_error
  have hsecond := g.queue_step_step
  unfold stepTwice
  rcases hstep : g.step with ⟨next, cause | first⟩ <;> rw [hstep] at hfirst hsecond
  · exact hfirst cause rfl
  · dsimp only at hsecond ⊢
    rcases hnext : next.step with ⟨last, cause | second⟩ <;> rw [hnext] at hsecond
    · exact hsecond
    · exact hsecond

theorem runFor_eq_stepTwice (g : Garden) (n : Nat) : g.runFor .empty (n + 2) = g.stepTwice := by
  have hqueue := g.queue_step_step
  rw [runFor_succ, stepTwice]
  rcases hstep : g.step with ⟨next, cause | first⟩
  · rfl
  · rw [hstep] at hqueue
    dsimp only at hqueue ⊢
    rw [runFor_succ]
    rcases hnext : next.step with ⟨last, cause | second⟩
    · rfl
    · rw [hnext] at hqueue
      exact runFor_of_idle hqueue _ n

theorem drawnInRun_eq_drawnTwice (g : Garden) (n : Nat) : g.drawnInRun (n + 2) = g.drawnTwice := by
  have hqueue := g.queue_step_step
  rw [drawnInRun_succ, drawnTwice]
  rcases hstep : g.step with ⟨next, cause | first⟩
  · rfl
  · rw [hstep] at hqueue
    dsimp only at hqueue ⊢
    rw [drawnInRun_succ]
    rcases hnext : next.step with ⟨last, cause | second⟩
    · rw [List.append_nil]
    · rw [hnext] at hqueue
      dsimp only at hqueue ⊢
      rw [drawnInRun_of_idle hqueue, List.append_nil]

theorem Sturdy.stepTwice_eq (h : g.Sturdy) :
    ∃ first second, g.step = .ok g.step.state first
      ∧ g.step.state.step = .ok g.step.state.step.state second
      ∧ g.stepTwice = .ok g.step.state.step.state (first.append second) := by
  obtain ⟨first, hfirst⟩ := h.step_eq
  obtain ⟨second, hsecond⟩ := h.step.step_eq
  refine ⟨first, second, ?_, ?_, ?_⟩
  · rw [hfirst]
    rfl
  · rw [hsecond]
    rfl
  · rw [stepTwice]
    rw [hfirst] at hsecond ⊢
    simp only [Outcome.ok] at hsecond ⊢
    rw [hsecond]

theorem runUntilIdle_eq_stepTwice (g : Garden) {steps : Value} {k : Int}
    (hsteps : steps.toInteger = .ok k) (hk : 2 ≤ k) : g.runUntilIdle steps = g.stepTwice := by
  obtain ⟨n, hn⟩ : ∃ n, k.toNat = n + 2 := ⟨k.toNat - 2, by omega⟩
  rw [runUntilIdle, hsteps]
  dsimp only
  rw [hn, runFor_eq_stepTwice]

theorem drawnInCall_eq_drawnTwice (g : Garden) {steps : Value} {k : Int}
    (hsteps : steps.toInteger = .ok k) (hk : 2 ≤ k) :
    g.drawnInCall (.runUntilIdle steps) = g.drawnTwice := by
  obtain ⟨n, hn⟩ : ∃ n, k.toNat = n + 2 := ⟨k.toNat - 2, by omega⟩
  rw [drawnInCall, hsteps]
  dsimp only
  rw [hn, drawnInRun_eq_drawnTwice]

theorem runUntilIdle_of_idle (h : g.queue = []) {steps : Value} {k : Int}
    (hsteps : steps.toInteger = .ok k) :
    g.runUntilIdle steps = .ok g .empty ∧ g.drawnInCall (.runUntilIdle steps) = [] := by
  rw [runUntilIdle, drawnInCall, hsteps]
  exact ⟨runFor_of_idle h .empty _, drawnInRun_of_idle h _⟩

theorem rests_after_two_steps (g : Garden) {steps : Value} {k : Int}
    (hsteps : steps.toInteger = .ok k) (hk : 2 ≤ k) :
    (∀ e ∈ g.step.state.queue, g.step.state.IsRequest e)
      ∧ g.step.state.step.state.queue = []
      ∧ (g.runUntilIdle steps).state.queue = []
      ∧ g.runUntilIdle steps = g.runUntilIdle (.int 2)
      ∧ g.drawnInCall (.runUntilIdle steps) = g.drawnInCall (.runUntilIdle (.int 2))
      ∧ (∀ again j, again.toInteger = .ok j →
          (g.runUntilIdle steps).state.runUntilIdle again = .ok (g.runUntilIdle steps).state .empty
            ∧ (g.runUntilIdle steps).state.drawnInCall (.runUntilIdle again) = [])
      ∧ g.runUntilIdle steps = g.stepTwice
      ∧ g.drawnInCall (.runUntilIdle steps) = g.drawnTwice
      ∧ (g.Sturdy → ∃ first second, g.step = .ok g.step.state first
          ∧ g.step.state.step = .ok g.step.state.step.state second
          ∧ g.runUntilIdle steps = .ok g.step.state.step.state (first.append second)) := by
  have hrun := g.runUntilIdle_eq_stepTwice hsteps hk
  have hrunTwo := g.runUntilIdle_eq_stepTwice (Value.toInteger_int 2) (Int.le_refl 2)
  have hdrawn := g.drawnInCall_eq_drawnTwice hsteps hk
  have hdrawnTwo := g.drawnInCall_eq_drawnTwice (Value.toInteger_int 2) (Int.le_refl 2)
  have hidle : (g.runUntilIdle steps).state.queue = [] := by rw [hrun, g.queue_stepTwice]
  refine ⟨fun e he => g.isRequest_of_mem_queue_step he, g.queue_step_step, hidle,
    hrun.trans hrunTwo.symm, hdrawn.trans hdrawnTwo.symm, ?_, hrun, hdrawn, fun h => ?_⟩
  · intro again j hagain
    exact runUntilIdle_of_idle hidle hagain
  · obtain ⟨first, second, hfirst, hsecond, htwice⟩ := h.stepTwice_eq
    exact ⟨first, second, hfirst, hsecond, hrun.trans htwice⟩

def sowing : List Event :=
  [.spawn none, .addToken (.ofNat 0) (.text "G") (.proper .forward),
    .addToken (.ofNat 0) (.text "GG") (.proper .forward),
    .changeAction (.ofNat 0) (.text "?") (.proper .nothing), .rebuild (.ofNat 7)]

def sown : Garden :=
  { create (declare standardTokens) .bush (.int 100) with queue := sowing }

theorem sturdy_sown : sown.Sturdy :=
  (sturdy_create (TokenTable.reset_declare standardTokens) .bush (fitting_int 100)).setQueue sowing

theorem rests_after_two_steps_sown :
    (Value.int 64).toInteger = .ok 64 ∧ sown.Sturdy ∧ sown.queue.length = 5
      ∧ sown.step.state.queue.length = 2
      ∧ ∃ first second : Report, sown.runUntilIdle (.int 64)
          = .ok sown.step.state.step.state (first.append second) := by
  obtain ⟨-, -, -, -, -, -, -, -, hreturns⟩ :=
    sown.rests_after_two_steps (Value.toInteger_int 64) (by decide : (2 : Int) ≤ 64)
  obtain ⟨first, second, -, -, hrun⟩ := hreturns sturdy_sown
  exact ⟨rfl, sturdy_sown, rfl, rfl, first, second, hrun⟩

end Garden

end LSystem
