import LSystem.Proofs.Garden.Events
import LSystem.Proofs.Plant.History

namespace LSystem

namespace Garden

inductive Deed where
  | call (c : Call)
  | command (n : Nat) (c : Plant.Command)

def act (g : Garden) : Deed → Garden
  | .call c => g.call c
  | .command n c =>
    match g.plants.get? n with
    | some p => g.setPlant n (p.perform c)
    | none => g

def actAll (g : Garden) (deeds : List Deed) : Garden :=
  deeds.foldl act g

structure Lasting (P : Plant → Prop) (limit : Value) : Prop where
  create : ∀ {o declarations p}, Plant.create o declarations limit = .ok p → P p
  perform : ∀ {p} (c : Plant.Command), P p → P (p.perform c)

theorem Lasting.performAll {P : Plant → Prop} {limit : Value} (hP : Lasting P limit) {p : Plant}
    (h : P p) (commands : List Plant.Command) : P (p.performAll commands) := by
  induction commands generalizing p with
  | nil => exact h
  | cons c commands ih => exact ih (hP.perform c h)

structure Everywhere (P : Plant → Prop) (limit : Value) (g : Garden) : Prop where
  limit_eq : g.limit = limit
  holds : ∀ n p, g.plants.get? n = some p → P p

variable {P : Plant → Prop} {limit : Value} {g : Garden} {r : Round}

theorem everywhere_create (P : Plant → Prop) (declarations : List Declaration) (options : Options)
    (limit : Value) : (create declarations options limit).Everywhere P limit :=
  ⟨rfl, nofun⟩

namespace Everywhere

theorem setPlant (h : g.Everywhere P limit) {p : Plant} (hp : P p) (n : Nat) :
    (g.setPlant n p).Everywhere P limit :=
  ⟨h.limit_eq, Dictionary.forall_get?_put hp fun m q _ hq => h.holds m q hq⟩

theorem setQueue (h : g.Everywhere P limit) (queue : List Event) :
    ({ g with queue := queue } : Garden).Everywhere P limit :=
  ⟨h.limit_eq, h.holds⟩

theorem plant (h : g.Everywhere P limit) {id : Key} {n : Nat} {p : Plant}
    (hplant : g.plant? id = some (n, p)) : P p :=
  h.holds n p (plant?_eq_some hplant).2

variable (hP : Lasting P limit)

include hP

theorem addPlant (h : g.Everywhere P limit) (options : Option Options) :
    (g.addPlant options).state.Everywhere P limit := by
  have hnext : ({ g with nextPlant := g.nextPlant + 1 } : Garden).Everywhere P limit :=
    ⟨h.limit_eq, h.holds⟩
  unfold Garden.addPlant
  dsimp only
  cases hcreate : Plant.create (options.getD g.options) g.declarations g.limit with
  | error e => exact hnext
  | ok p => exact hnext.setPlant (hP.create (h.limit_eq ▸ hcreate)) _

theorem edit (h : r.garden.Everywhere P limit) (id : Key) (c : Draft.Command) :
    (r.edit id c).garden.Everywhere P limit := by
  unfold Round.edit
  cases hplant : r.garden.plant? id with
  | none => exact h
  | some entry =>
    obtain ⟨n, p⟩ := entry
    have hset := h.setPlant (hP.perform (.edit c) (h.plant hplant)) n
    change (r.garden.setPlant n (p.edit c).state).Everywhere P limit at hset
    dsimp only
    rcases hedit : p.edit c with ⟨q, cause | reply⟩ <;> rw [hedit] at hset
    · exact hset
    · dsimp only
      split <;> exact hset

theorem updateOptions (h : r.garden.Everywhere P limit) (id : Key) (o : Options) :
    (r.updateOptions id o).garden.Everywhere P limit := by
  unfold Round.updateOptions
  cases hplant : r.garden.plant? id with
  | none => exact h
  | some entry =>
    obtain ⟨n, p⟩ := entry
    dsimp only
    split
    · exact h
    · exact h.setPlant (hP.perform (.setOptions o) (h.plant hplant)) n

theorem rebuild (h : r.garden.Everywhere P limit) (id : Key) :
    (r.rebuild id).state.garden.Everywhere P limit := by
  unfold Round.rebuild
  cases hplant : r.garden.plant? id with
  | none => exact h
  | some entry =>
    obtain ⟨n, p⟩ := entry
    have hset := h.setPlant (hP.perform .rebuild (h.plant hplant)) n
    change (r.garden.setPlant n p.rebuild.state).Everywhere P limit at hset
    dsimp only
    rcases hrebuild : p.rebuild with ⟨q, cause | geometry⟩ <;> rw [hrebuild] at hset
    · dsimp only
      cases cause.ending? <;> exact hset
    · exact hset

theorem handle (h : r.garden.Everywhere P limit) (e : Event) :
    (r.handle e).state.garden.Everywhere P limit := by
  cases e with
  | spawn options =>
    have hadd := h.addPlant hP options
    rw [Round.handle]
    rcases hplant : r.garden.addPlant options with ⟨next, cause | n⟩ <;> rw [hplant] at hadd <;>
      exact hadd
  | rebuild id => exact h.rebuild hP id
  | addToken id symbol action => exact h.edit hP id _
  | removeToken id symbol => exact h.edit hP id _
  | changeToken id former symbol => exact h.edit hP id _
  | changeAction id symbol action => exact h.edit hP id _
  | updateOptions id o => exact h.updateOptions hP id o

theorem handleAll (h : r.garden.Everywhere P limit) (events : List Event) :
    (r.handleAll events).state.garden.Everywhere P limit := by
  induction events generalizing r with
  | nil => exact h
  | cons e rest ih =>
    have hone := h.handle hP e
    rw [Round.handleAll]
    rcases hhandle : r.handle e with ⟨next, cause | _⟩ <;> rw [hhandle] at hone
    · exact hone
    · exact ih hone

theorem step (h : g.Everywhere P limit) : g.step.state.Everywhere P limit := by
  have hround := handleAll hP (r := ⟨{ g with queue := [] }, [], .empty⟩) (h.setQueue []) g.queue
  rw [Garden.step]
  rcases hall : Round.handleAll ⟨{ g with queue := [] }, [], .empty⟩ g.queue with ⟨r, cause | _⟩ <;>
    rw [hall] at hround
  · exact hround
  · exact hround.setQueue _

theorem runFor (h : g.Everywhere P limit) (report : Report) (n : Nat) :
    (g.runFor report n).state.Everywhere P limit := by
  induction n generalizing g report with
  | zero => exact h
  | succ n ih =>
    have hone := h.step hP
    rw [Garden.runFor]
    split
    · exact h
    · rcases hstep : g.step with ⟨next, cause | more⟩ <;> rw [hstep] at hone
      · exact hone
      · exact ih hone _

theorem spawn (h : g.Everywhere P limit) (options : Option Options) :
    (g.spawn options).state.Everywhere P limit := by
  have hadd := h.addPlant hP options
  rw [Garden.spawn]
  rcases hplant : g.addPlant options with ⟨next, cause | n⟩ <;> rw [hplant] at hadd
  · exact hadd
  · exact hadd.setQueue _

theorem call (h : g.Everywhere P limit) (c : Call) : (g.call c).Everywhere P limit := by
  cases c with
  | post e => exact h.setQueue _
  | spawn options => exact h.spawn hP options
  | step => exact h.step hP
  | runUntilIdle steps =>
    rw [Garden.call, runUntilIdle]
    cases steps.toInteger with
    | error cause => exact h
    | ok n => exact h.runFor hP _ n.toNat

theorem act (h : g.Everywhere P limit) (d : Deed) : (g.act d).Everywhere P limit := by
  cases d with
  | call c => exact h.call hP c
  | command n c =>
    rw [Garden.act]
    cases hp : g.plants.get? n with
    | none => exact h
    | some p => exact h.setPlant (hP.perform c (h.holds n p hp)) n

theorem actAll (h : g.Everywhere P limit) (deeds : List Deed) :
    (g.actAll deeds).Everywhere P limit := by
  induction deeds generalizing g with
  | nil => exact h
  | cons d deeds ih => exact ih (h.act hP d)

end Everywhere

namespace Sturdy

theorem act (h : g.Sturdy) (d : Deed) : (g.act d).Sturdy := by
  cases d with
  | call c => exact h.call c
  | command n c =>
    rw [Garden.act]
    cases hp : g.plants.get? n with
    | none => exact h
    | some p =>
      have hlimit : (p.perform c).limit = g.limit := (p.limit_perform c).trans (h.limited n p hp)
      exact ⟨h.declared, h.fitting,
        Dictionary.forall_get?_put hlimit fun m q _ hq => h.limited m q hq⟩

theorem actAll (h : g.Sturdy) (deeds : List Deed) : (g.actAll deeds).Sturdy := by
  induction deeds generalizing g with
  | nil => exact h
  | cons d deeds ih => exact ih (h.act d)

end Sturdy

end Garden

end LSystem
