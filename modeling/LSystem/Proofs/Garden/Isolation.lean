import LSystem.Proofs.Garden.Events
import LSystem.Proofs.Token.Declared
import Mathlib.Logic.Function.Iterate

namespace LSystem

namespace Event

def isFor (n : Nat) (e : Event) : Bool :=
  e.plant?.any fun id => id.plantNumber? == some n

def concerns (n : Nat) (e : Event) : Bool :=
  e.plant?.all fun id => id.plantNumber? == some n

theorem concerns_of_isFor {n : Nat} {e : Event} (h : e.isFor n = true) : e.concerns n = true := by
  unfold isFor at h
  unfold concerns
  cases hid : e.plant? with
  | none => rfl
  | some id =>
    rw [hid] at h
    exact h

theorem filter_isFor_concerns (n : Nat) (events : List Event) :
    (events.filter (concerns n)).filter (isFor n) = events.filter (isFor n) := by
  rw [List.filter_filter]
  refine List.filter_congr fun e _ => ?_
  cases hfor : e.isFor n with
  | false => rfl
  | true => rw [concerns_of_isFor hfor]; rfl

end Event

namespace Garden

variable {g g' g'' : Garden} {n : Nat} {e : Event}

/-- Gardens that plant `n` cannot tell apart. -/
structure Alike (n : Nat) (g g' : Garden) : Prop where
  declarations : g.declarations = g'.declarations
  options : g.options = g'.options
  limit : g.limit = g'.limit
  nextPlant : g.nextPlant = g'.nextPlant
  plant : g.plants.get? n = g'.plants.get? n
  queue : g.queue.filter (Event.concerns n) = g'.queue.filter (Event.concerns n)

namespace Alike

theorem refl (n : Nat) (g : Garden) : Alike n g g := ⟨rfl, rfl, rfl, rfl, rfl, rfl⟩

theorem symm (h : Alike n g g') : Alike n g' g :=
  ⟨h.declarations.symm, h.options.symm, h.limit.symm, h.nextPlant.symm, h.plant.symm, h.queue.symm⟩

theorem trans (h : Alike n g g') (h' : Alike n g' g'') : Alike n g g'' :=
  ⟨h.declarations.trans h'.declarations, h.options.trans h'.options, h.limit.trans h'.limit,
    h.nextPlant.trans h'.nextPlant, h.plant.trans h'.plant, h.queue.trans h'.queue⟩

theorem setQueue (h : Alike n g g') {queue queue' : List Event}
    (hqueue : queue.filter (Event.concerns n) = queue'.filter (Event.concerns n)) :
    Alike n { g with queue := queue } { g' with queue := queue' } :=
  ⟨h.declarations, h.options, h.limit, h.nextPlant, h.plant, hqueue⟩

theorem post (h : Alike n g g') (e : Event) : Alike n (g.post e) (g'.post e) :=
  h.setQueue (by rw [List.filter_append, List.filter_append, h.queue])

theorem post_left (h : Alike n g g') (he : e.concerns n = false) : Alike n (g.post e) g' :=
  h.setQueue (by rw [List.filter_append, h.queue, List.filter_singleton, he]; simp)

end Alike

theorem Sturdy.alike_take (h : g.Sturdy) (he : e.concerns n = false) :
    Alike n (g.take e) g ∧ (g.asked e).filter (Event.concerns n) = [] := by
  unfold Event.concerns at he
  cases hid : e.plant? with
  | none => rw [hid] at he; cases he
  | some id =>
    have hother : (id.plantNumber? == some n) = false := by simpa [hid] using he
    obtain ⟨plants, hgarden, hplants⟩ := h.take_differsAt hid
    refine ⟨?_, ?_⟩
    · rw [hgarden]
      refine ⟨rfl, rfl, rfl, rfl, ?_, rfl⟩
      change plants.get? n = _
      rw [hplants, if_neg (by simpa using hother)]
    · rw [asked, hid]
      dsimp only
      rw [askedIf]
      split
      · split
        · simp [Event.concerns, Event.plant?, hother]
        · rfl
      · rfl

theorem Alike.take (h : Alike n g g') (hg : g.Sturdy) (hg' : g'.Sturdy)
    (he : e.concerns n = true) :
    Alike n (g.take e) (g'.take e) ∧ g.asked e = g'.asked e := by
  unfold Event.concerns at he
  cases hid : e.plant? with
  | none =>
    obtain ⟨t, ht⟩ := hg.declared
    have ht' := h.declarations ▸ ht
    cases e with
    | spawn options =>
      have hnew : g.newPlant t options = g'.newPlant t options := by
        rw [newPlant, newPlant, h.options, h.limit]
      rw [take_spawn ht, take_spawn ht', asked, asked, hnew, h.nextPlant]
      refine ⟨⟨h.declarations, h.options, h.limit, rfl, ?_, h.queue⟩, rfl⟩
      by_cases hn : n = g'.nextPlant
      · subst hn
        exact (Dictionary.get?_put_self _ _ _).trans (Dictionary.get?_put_self _ _ _).symm
      · exact (Dictionary.get?_put_of_ne _ _ hn).trans
          (h.plant.trans (Dictionary.get?_put_of_ne _ _ hn).symm)
    | _ => cases hid
  | some id =>
    have hn : id.plantNumber? = some n := by simpa [hid] using he
    have hplant : g.plant? id = g'.plant? id := by simp [plant?, hn, h.plant]
    obtain ⟨plants, hgarden, hplants⟩ := hg.take_differsAt hid
    obtain ⟨plants', hgarden', hplants'⟩ := hg'.take_differsAt hid
    rw [hgarden, hgarden']
    refine ⟨⟨h.declarations, h.options, h.limit, h.nextPlant, ?_, h.queue⟩, ?_⟩
    · change plants.get? n = plants'.get? n
      rw [hplants, hplants', if_pos hn, if_pos hn, h.plant]
    · rw [asked, asked, hid]
      dsimp only
      rw [askedIf, askedIf, hplant]

theorem Alike.takeAll_filter (h : Alike n g g') (hg : g.Sturdy) (hg' : g'.Sturdy)
    (events : List Event) :
    Alike n (g.takeAll events) (g'.takeAll (events.filter (Event.concerns n)))
      ∧ (g.askedAll events).filter (Event.concerns n)
          = (g'.askedAll (events.filter (Event.concerns n))).filter (Event.concerns n) := by
  induction events generalizing g g' with
  | nil => exact ⟨h, rfl⟩
  | cons e rest ih =>
    rw [askedAll, List.filter_append]
    cases he : e.concerns n with
    | false =>
      obtain ⟨halike, hasked⟩ := hg.alike_take he
      rw [List.filter_cons_of_neg (Bool.eq_false_iff.mp he), hasked, List.nil_append]
      exact ih (halike.trans h) (hg.take e) hg'
    | true =>
      obtain ⟨halike, hasked⟩ := h.take hg hg' he
      obtain ⟨hrest, hrestAsked⟩ := ih halike (hg.take e) (hg'.take e)
      rw [List.filter_cons_of_pos he, askedAll, List.filter_append, hasked, hrestAsked]
      exact ⟨hrest, rfl⟩

theorem Alike.step (h : Alike n g g') (hg : g.Sturdy) (hg' : g'.Sturdy) :
    Alike n g.step.state g'.step.state := by
  have hidle : Alike n g.idle g'.idle := h.setQueue rfl
  have hsturdy : g.idle.Sturdy := hg.setQueue []
  have hsturdy' : g'.idle.Sturdy := hg'.setQueue []
  obtain ⟨hleft, hleftAsked⟩ := hidle.takeAll_filter hsturdy hsturdy' g.queue
  obtain ⟨hright, hrightAsked⟩ := (refl n g'.idle).takeAll_filter hsturdy' hsturdy' g'.queue
  obtain ⟨report, hstep⟩ := hg.step_eq
  obtain ⟨report', hstep'⟩ := hg'.step_eq
  rw [hstep, hstep']
  rw [h.queue] at hleft hleftAsked
  exact (hleft.trans hright.symm).setQueue (hleftAsked.trans hrightAsked.symm)

theorem Sturdy.state_runFor (h : g.Sturdy) (report : Report) (steps : Nat) :
    (g.runFor report steps).state = (fun g : Garden => g.step.state)^[steps] g := by
  induction steps generalizing g report with
  | zero => rfl
  | succ steps ih =>
    obtain ⟨more, hstep⟩ := h.step_eq
    have hnext := h.step
    rw [Garden.runFor]
    split
    · next hempty =>
      have hidle : g.step.state = g := by rw [step_of_idle (List.isEmpty_iff.mp hempty)]; rfl
      exact (Function.iterate_fixed hidle _).symm
    · rw [Function.iterate_succ_apply]
      rw [hstep] at hnext ⊢
      exact ih hnext _

theorem Alike.iterate_step (h : Alike n g g') (hg : g.Sturdy) (hg' : g'.Sturdy) (steps : Nat) :
    Alike n ((fun g : Garden => g.step.state)^[steps] g)
      ((fun g : Garden => g.step.state)^[steps] g') := by
  induction steps generalizing g g' with
  | zero => exact h
  | succ steps ih => exact ih (h.step hg hg') hg.step hg'.step

def Call.isKept (n : Nat) : Call → Bool
  | .post e => e.concerns n
  | .spawn _ | .step | .runUntilIdle _ => true

theorem Alike.call (h : Alike n g g') (hg : g.Sturdy) (hg' : g'.Sturdy) (c : Call) :
    Alike n (g.call c) (g'.call c) := by
  cases c with
  | post e => exact h.post e
  | spawn options =>
    obtain ⟨htake, -⟩ := h.take hg hg' (e := .spawn options) rfl
    rw [Garden.call, Garden.call, hg.state_spawn, hg'.state_spawn, h.nextPlant]
    exact htake.post _
  | step => exact h.step hg hg'
  | runUntilIdle steps =>
    rw [Garden.call, Garden.call, runUntilIdle, runUntilIdle]
    cases steps.toInteger with
    | error cause => exact h
    | ok k =>
      dsimp only
      rw [hg.state_runFor, hg'.state_runFor]
      exact h.iterate_step hg hg' k.toNat

theorem Alike.callAll_filter (h : Alike n g g') (hg : g.Sturdy) (hg' : g'.Sturdy)
    (calls : List Call) :
    Alike n (g.callAll calls) (g'.callAll (calls.filter (Call.isKept n))) := by
  induction calls generalizing g g' with
  | nil => exact h
  | cons c rest ih =>
    cases hc : Call.isKept n c with
    | true =>
      rw [List.filter_cons_of_pos hc]
      exact ih (h.call hg hg' c) (hg.call c) (hg'.call c)
    | false =>
      rw [List.filter_cons_of_neg (Bool.eq_false_iff.mp hc)]
      cases c with
      | post e => exact ih (h.post_left hc) (hg.call (.post e)) hg'
      | spawn | step | runUntilIdle => cases hc

theorem plants_are_isolated (h : g.Sturdy) (n : Nat) (calls : List Call) :
    (g.callAll calls).plants.get? n
        = (g.callAll (calls.filter (Call.isKept n))).plants.get? n
      ∧ (g.callAll calls).queue.filter (Event.isFor n)
        = (g.callAll (calls.filter (Call.isKept n))).queue.filter (Event.isFor n) := by
  have halike := (Alike.refl n g).callAll_filter h h calls
  refine ⟨halike.plant, ?_⟩
  rw [← Event.filter_isFor_concerns, halike.queue, Event.filter_isFor_concerns]

theorem plants_are_isolated_two :
    (create (declare standardTokens) .bush .null).Sturdy
      ∧ ((create (declare standardTokens) .bush .null).callAll
          [.post (.spawn none), .post (.spawn none), .post (.removeToken (.ofNat 1) (.text "F")),
            .post (.addToken (.ofNat 0) (.text "G") (.proper .forward)),
            .post (.changeToken (.ofNat 1) (.text "F") (.text "H")), .step]).plants.get? 0
        = ((create (declare standardTokens) .bush .null).callAll
            [.post (.spawn none), .post (.spawn none),
              .post (.addToken (.ofNat 0) (.text "G") (.proper .forward)),
              .step]).plants.get? 0 := by
  have h : (create (declare standardTokens) .bush .null).Sturdy :=
    sturdy_create (TokenTable.reset_declare standardTokens) .bush fitting_null
  exact ⟨h, (plants_are_isolated h 0 _).1⟩

theorem plants_meet_under_a_list :
    (∃ t, TokenTable.reset (create (declare standardTokens) .bush (.list [])).declarations
        = .ok t ())
      ∧ (((create (declare standardTokens) .bush (.list [])).callAll
          [.spawn none, .spawn none, .step, .post (.rebuild (.ofNat 0)),
            .post (.removeToken (.ofNat 1) (.text "F")), .step]).plants.get? 1).map
              (fun p => (p.draft.tokens.find? 'F').isSome) = some true
      ∧ (((create (declare standardTokens) .bush (.list [])).callAll
          (List.filter (Call.isKept 1)
            [.spawn none, .spawn none, .step, .post (.rebuild (.ofNat 0)),
              .post (.removeToken (.ofNat 1) (.text "F")), .step])).plants.get? 1).map
              (fun p => (p.draft.tokens.find? 'F').isSome) = some false := by
  exact ⟨⟨_, TokenTable.reset_declare standardTokens⟩, rfl, rfl⟩

end Garden

end LSystem
