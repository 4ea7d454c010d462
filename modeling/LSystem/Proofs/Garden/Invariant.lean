import LSystem.Proofs.Garden.Calls
import LSystem.Proofs.Garden.Settled

namespace LSystem

namespace Garden

def Awaits (events : List Event) (n : Nat) : Prop :=
  ∃ id, .rebuild id ∈ events ∧ id.plantNumber? = some n

/-- Plant `n` where the next one gets the number `next`, `waiting` is still to be taken and `log` is
what was drawn so far; a new plant has the table `t`. -/
structure Kept (t : TokenTable) (limit : Value) (next : Nat) (waiting : List Event)
    (log : List Drawn) (n : Nat) (p : Plant) : Prop where
  numbered : n < next
  limited : p.limit = limit
  shown : (p.geometry, p.actions) = latest t.actionMap log n
  settled : p.Settled ∨ Awaits waiting n

structure Sound (g : Garden) (t : TokenTable) (waiting : List Event) (log : List Drawn) :
    Prop where
  valid : TokenTable.reset g.declarations = .ok t ()
  logged : ∀ d ∈ log, d.plant < g.nextPlant
  kept : ∀ n p, g.plants.get? n = some p → Kept t g.limit g.nextPlant waiting log n p

variable {g : Garden} {t : TokenTable} {waiting : List Event} {log : List Drawn} {n : Nat}
  {p q : Plant} {e : Event}

theorem awaits_rebuild_iff {id : Key} : Awaits [.rebuild id] n ↔ id.plantNumber? = some n := by
  constructor
  · rintro ⟨id', hid, hn⟩
    obtain rfl : id' = id := by simpa using hid
    exact hn
  · intro hn
    exact ⟨id, List.mem_singleton.mpr rfl, hn⟩

theorem Awaits.mono {events : List Event} (h : Awaits waiting n) (hsub : waiting ⊆ events) :
    Awaits events n := by
  obtain ⟨id, hid, hn⟩ := h
  exact ⟨id, hsub hid, hn⟩

theorem plantNumber?_ofNat (n : Nat) : (Key.ofNat n).plantNumber? = some n := by
  simp [Key.plantNumber?, Key.ofNat, Value.integer?]

def newPlant (g : Garden) (t : TokenTable) (options : Option Options) : Plant :=
  ⟨options.getD g.options, .ofTokens t, g.limit, none, t.actionMap⟩

theorem addPlant_eq (h : TokenTable.reset g.declarations = .ok t ()) (options : Option Options) :
    g.addPlant options
      = .ok ({ g with nextPlant := g.nextPlant + 1 }.setPlant g.nextPlant (g.newPlant t options))
          g.nextPlant := by
  rw [addPlant]
  simp only [Plant.create_of_valid h]
  rfl

namespace Sound

theorem weaken (h : g.Sound t waiting log) {events : List Event}
    (hevents : ∀ n p, g.plants.get? n = some p → Awaits waiting n → p.Settled ∨ Awaits events n) :
    g.Sound t events log := by
  refine ⟨h.valid, h.logged, fun n p hp => ?_⟩
  obtain ⟨hnumbered, hlimited, hshown, hsettled⟩ := h.kept n p hp
  refine ⟨hnumbered, hlimited, hshown, ?_⟩
  rcases hsettled with hsettled | hawaits
  · exact Or.inl hsettled
  · exact hevents n p hp hawaits

theorem mono (h : g.Sound t waiting log) {events : List Event} (hsub : waiting ⊆ events) :
    g.Sound t events log :=
  h.weaken fun _ _ _ hawaits => Or.inr (hawaits.mono hsub)

theorem setQueue (h : g.Sound t waiting log) (queue : List Event) :
    ({ g with queue := queue } : Garden).Sound t waiting log :=
  ⟨h.valid, h.logged, h.kept⟩

theorem setPlant (h : g.Sound t waiting log) (hp : g.plants.get? n = some p)
    (hlimit : q.limit = p.limit) (hshown : (q.geometry, q.actions) = (p.geometry, p.actions))
    (hsettled : q.Settled ∨ Awaits waiting n) : (g.setPlant n q).Sound t waiting log := by
  obtain ⟨hnumbered, hlimited, hlatest, -⟩ := h.kept n p hp
  refine ⟨h.valid, h.logged, Dictionary.forall_get?_put ?_ fun m r _ hr => h.kept m r hr⟩
  exact ⟨hnumbered, hlimit.trans hlimited, hshown.trans hlatest, hsettled⟩

theorem redraw (h : g.Sound t waiting log) (hp : g.plants.get? n = some p) :
    (g.setPlant n p.rebuild.state).Sound t waiting (log ++ p.drawn n) := by
  obtain ⟨hnumbered, hlimited, hlatest, -⟩ := h.kept n p hp
  refine ⟨h.valid, fun d hd => ?_, Dictionary.forall_get?_put ?_ fun m r hm hr => ?_⟩
  · rcases List.mem_append.mp hd with hd | hd
    · exact h.logged d hd
    · rw [Plant.plant_of_mem_drawn hd]
      exact hnumbered
  · refine ⟨hnumbered, (Plant.limit_rebuild p).trans hlimited, ?_, Or.inl p.settled_rebuild⟩
    exact shown_rebuild hlatest
  · obtain ⟨hnumbered, hlimited, hlatest, hsettled⟩ := h.kept m r hr
    refine ⟨hnumbered, hlimited, hlatest.trans ?_, hsettled⟩
    exact (latest_append_drawn_of_ne t.actionMap log p (Ne.symm hm)).symm

theorem addPlant (h : g.Sound t waiting log) (options : Option Options) {events : List Event}
    (hsub : waiting ⊆ events) (hawaits : Awaits events g.nextPlant) :
    (g.addPlant options).answer = .ok g.nextPlant
      ∧ (g.addPlant options).state.queue = g.queue
      ∧ (g.addPlant options).state.Sound t events log := by
  rw [addPlant_eq h.valid]
  refine ⟨rfl, rfl, h.valid, fun d hd => Nat.lt_succ_of_lt (h.logged d hd),
    Dictionary.forall_get?_put ?_ fun m r _ hr => ?_⟩
  · refine ⟨Nat.lt_succ_self _, rfl, ?_, Or.inr hawaits⟩
    exact (latest_of_forall_ne t.actionMap fun d hd => Nat.ne_of_lt (h.logged d hd)).symm
  · obtain ⟨hnumbered, hlimited, hlatest, hsettled⟩ := h.kept m r hr
    refine ⟨Nat.lt_succ_of_lt hnumbered, hlimited, hlatest, ?_⟩
    exact hsettled.imp_right fun hold => hold.mono hsub

theorem settle (h : g.Sound t waiting log) {cause : Mismatch}
    (hlimit : g.limit.toLimit = .error cause) (events : List Event) : g.Sound t events log := by
  refine h.weaken fun n p hp _ => Or.inl ?_
  have hlimited := (h.kept n p hp).limited
  exact Plant.settled_of_limit_error (hlimited ▸ hlimit)

theorem drop (h : g.Sound t (e :: waiting) log)
    (he : ∀ n p, g.plants.get? n = some p → Awaits [e] n → p.Settled) :
    g.Sound t waiting log := by
  refine h.weaken fun n p hp hawaits => ?_
  obtain ⟨id, hid, hn⟩ := hawaits
  rcases List.mem_cons.mp hid with rfl | hid
  · exact Or.inl (he n p hp (awaits_rebuild_iff.mpr hn))
  · exact Or.inr ⟨id, hid, hn⟩

theorem skipRebuild {id : Key} (h : g.Sound t (.rebuild id :: waiting) log)
    (hplant : g.plant? id = none) : g.Sound t waiting log := by
  refine h.drop fun n p hp hawaits => ?_
  rw [plant?_eq_none hplant (awaits_rebuild_iff.mp hawaits)] at hp
  cases hp

theorem takeRebuild {id : Key} (h : g.Sound t (.rebuild id :: waiting) log)
    (hplant : g.plant? id = some (n, p)) :
    (g.setPlant n p.rebuild.state).Sound t waiting (log ++ p.drawn n) := by
  obtain ⟨hid, hp⟩ := plant?_eq_some hplant
  refine (h.redraw hp).drop fun m q hq hawaits => ?_
  -- the event asks for no other plant than the one that has just been drawn
  have hm := awaits_rebuild_iff.mp hawaits
  obtain rfl : n = m := Option.some.inj (hid.symm.trans hm)
  obtain rfl : p.rebuild.state = q := by simpa [Garden.setPlant] using hq
  exact p.settled_rebuild

end Sound

end Garden

end LSystem
