import LSystem.Proofs.Garden.Invariant

namespace LSystem

def Offer.isProper {α : Type} : Offer α → Bool
  | .proper _ => true
  | .other _ => false

def TokenTable.holds (t : TokenTable) (symbol : Value) : Bool :=
  (symbol.symbol?.bind t.find?).isSome

theorem TokenTable.holds_eq (t : TokenTable) (symbol : Value) :
    t.holds symbol = (t.get symbol).toOption.join.isSome := by
  rw [holds]
  cases h : symbol.isKey with
  | false =>
    rw [Value.symbol?_of_not_isKey h, t.get_of_not_isKey h]
    rfl
  | true =>
    rw [t.get_of_isKey h]
    rfl

namespace Draft

/-- Whether an edit of a symbol counts as a change. Taking a symbol out does so even if there is
none; any other edit has to find what it needs, and to be given a symbol and an action. -/
def Command.isEffective (d : Draft) : Command → Bool
  | .addToken symbol action => symbol.symbol?.isSome && action.isProper
  | .removeToken symbol => symbol.isKey || d.tokens.entries.isEmpty
  | .changeToken former symbol => d.tokens.holds former && symbol.symbol?.isSome
  | .changeAction symbol action => d.tokens.holds symbol && action.isProper
  | _ => true

theorem isEffective_eq {c : Command} (hc : c.isTokenEdit = true) (d : Draft) :
    c.isEffective d = match (d.perform c).answer with
      | .ok reply => reply.isChange
      | .error _ => false := by
  cases c with
  | addToken symbol action =>
    rcases d.tokens.register_cases symbol action with ⟨c, a, hs, rfl, hr⟩ | ⟨e, h, hr⟩
    · simp only [perform, addToken, hr, Command.isEffective, hs]
      rfl
    · have hrefused : (symbol.symbol?.isSome && action.isProper) = false := by
        cases h with
        | symbol hnone =>
          rw [hnone]
          rfl
        | action => exact Bool.and_false _
      simp only [perform, addToken, hr, Command.isEffective, hrefused]
      rfl
  | removeToken symbol =>
    simp only [perform, removeToken, Command.isEffective, TokenTable.remove]
    cases symbol.isKey || d.tokens.entries.isEmpty with
    | false => rfl
    | true => cases symbol.symbol? <;> rfl
  | changeToken former symbol =>
    simp only [perform, changeToken, Command.isEffective, TokenTable.holds_eq]
    rcases d.tokens.get former with cause | (_ | entry)
    · rfl
    · rfl
    · rcases d.tokens.register_cases symbol (.proper entry.action) with
        ⟨c, a, hs, -, hr⟩ | ⟨e, ⟨hnone⟩, hr⟩
      · simp only [hr, hs]
        rfl
      · simp only [hr, hnone]
        rfl
  | changeAction symbol action =>
    simp only [perform, changeAction, Command.isEffective, TokenTable.holds_eq]
    rcases hsymbol : d.tokens.get symbol with cause | (_ | entry)
    · rfl
    · rfl
    · obtain ⟨c, hc, -⟩ := TokenTable.get_eq_some_iff.mp hsymbol
      rcases d.tokens.register_cases symbol action with
        ⟨c, a, -, rfl, hr⟩ | ⟨e, hnone | hs, hr⟩
      · simp only [hr]
        rfl
      · rw [hc] at hnone
        cases hnone
      · simp only [hr]
        rfl
  | setTokens | addRule | setRules | setRulesText | setStart => cases hc

end Draft

namespace Event

def plant? : Event → Option Key
  | .spawn _ => none
  | .rebuild id | .addToken id _ _ | .removeToken id _ | .changeToken id _ _
  | .changeAction id _ _ | .updateOptions id _ => some id

def act (p : Plant) : Event → Plant
  | .spawn _ => p
  | .rebuild _ => p.rebuild.state
  | .addToken _ symbol action => (p.edit (.addToken symbol action)).state
  | .removeToken _ symbol => (p.edit (.removeToken symbol)).state
  | .changeToken _ former symbol => (p.edit (.changeToken former symbol)).state
  | .changeAction _ symbol action => (p.edit (.changeAction symbol action)).state
  | .updateOptions _ o => if o.same p.options then p else p.setOptions o

def isEffective (p : Plant) : Event → Bool
  | .spawn _ | .rebuild _ => false
  | .addToken _ symbol action => (Draft.Command.addToken symbol action).isEffective p.draft
  | .removeToken _ symbol => (Draft.Command.removeToken symbol).isEffective p.draft
  | .changeToken _ former symbol => (Draft.Command.changeToken former symbol).isEffective p.draft
  | .changeAction _ symbol action => (Draft.Command.changeAction symbol action).isEffective p.draft
  | .updateOptions _ o => !o.same p.options

theorem limit_act (p : Plant) (e : Event) : (e.act p).limit = p.limit := by
  cases e with
  | rebuild id => exact Plant.limit_rebuild p
  | updateOptions id o =>
    rw [act]
    split <;> rfl
  | spawn | addToken | removeToken | changeToken | changeAction => rfl

end Event

namespace Garden

variable {g : Garden} {t : TokenTable} {e : Event} {id : Key} {f : Plant → Plant}

def DiffersAt (id : Key) (f : Plant → Plant) (g h : Garden) : Prop :=
  ∃ plants, h = { g with plants := plants } ∧ ∀ m, plants.get? m =
    if id.plantNumber? = some m then (g.plants.get? m).map f else g.plants.get? m

theorem differsAt_self (h : ∀ n p, g.plant? id = some (n, p) → f p = p) :
    DiffersAt id f g g := by
  refine ⟨g.plants, rfl, fun m => ?_⟩
  split
  · next hm =>
    cases hplant : g.plant? id with
    | none => rw [plant?_eq_none hplant hm, Option.map_none]
    | some entry =>
      obtain ⟨n, p⟩ := entry
      obtain ⟨hn, hp⟩ := plant?_eq_some hplant
      obtain rfl : n = m := Option.some.inj (hn.symm.trans hm)
      rw [hp, Option.map_some, h n p hplant]
  · rfl

theorem differsAt_of_plant?_eq_none (h : g.plant? id = none) : DiffersAt id f g g :=
  differsAt_self fun _ _ hsome => nomatch h.symm.trans hsome

theorem differsAt_setPlant {n : Nat} {p : Plant} (h : g.plant? id = some (n, p)) :
    DiffersAt id f g (g.setPlant n (f p)) := by
  obtain ⟨hid, hp⟩ := plant?_eq_some h
  refine ⟨_, rfl, fun m => ?_⟩
  rw [hid]
  by_cases hm : n = m
  · subst hm
    rw [if_pos rfl, hp, Dictionary.get?_put_self, Option.map_some]
  · rw [if_neg fun heq => hm (Option.some.inj heq), Dictionary.get?_put_of_ne _ _ (Ne.symm hm)]

def askedIf (g : Garden) (id : Key) (effective : Plant → Bool) : List Event :=
  match g.plant? id with
  | some (_, p) => if effective p then [.rebuild id] else []
  | none => []

def asked (g : Garden) (e : Event) : List Event :=
  match e.plant? with
  | none => [.rebuild (.ofNat g.nextPlant)]
  | some id => g.askedIf id fun p => e.isEffective p

def idle (g : Garden) : Garden :=
  { g with queue := [] }

def take (g : Garden) (e : Event) : Garden :=
  (Round.handle ⟨g, [], .empty⟩ e).state.garden

/-- The limit of a garden in which no drawing ends a step: null, or a value that an integer can be
made of, or would be but for what it says. -/
def Fitting (limit : Value) : Prop :=
  ∀ cause, limit.toLimit = .error cause → cause.isValueFault = true

theorem fitting_null : Fitting .null := nofun

theorem fitting_int (n : Int) : Fitting (.int n) := nofun

structure Sturdy (g : Garden) : Prop where
  declared : ∃ t, TokenTable.reset g.declarations = .ok t ()
  fitting : Fitting g.limit
  limited : ∀ n p, g.plants.get? n = some p → p.limit = g.limit

theorem sturdy_create {declarations : List Declaration}
    (h : TokenTable.reset declarations = .ok t ()) (options : Options) {limit : Value}
    (hlimit : Fitting limit) : (create declarations options limit).Sturdy :=
  ⟨⟨t, h⟩, hlimit, nofun⟩

namespace Round

variable {r : Round}

theorem garden_edit (r : Round) (id : Key) (c : Draft.Command) :
    (r.edit id c).garden = (edit ⟨r.garden, [], .empty⟩ id c).garden := by
  simp only [edit]
  cases r.garden.plant? id with
  | none => rfl
  | some entry =>
    obtain ⟨n, p⟩ := entry
    dsimp only
    rcases p.edit c with ⟨q, cause | reply⟩
    · rfl
    · dsimp only
      split <;> rfl

theorem garden_handle (r : Round) (e : Event) : (r.handle e).state.garden = r.garden.take e := by
  cases e with
  | spawn options =>
    simp only [take, handle]
    rcases r.garden.addPlant options with ⟨g, cause | n⟩ <;> rfl
  | rebuild id =>
    simp only [take, handle, rebuild]
    cases r.garden.plant? id with
    | none => rfl
    | some entry =>
      obtain ⟨n, p⟩ := entry
      dsimp only
      rcases p.rebuild with ⟨q, cause | geometry⟩
      · dsimp only
        cases cause.ending? <;> rfl
      · rfl
  | addToken id symbol action => exact garden_edit r id _
  | removeToken id symbol => exact garden_edit r id _
  | changeToken id former symbol => exact garden_edit r id _
  | changeAction id symbol action => exact garden_edit r id _
  | updateOptions id o =>
    simp only [take, handle, updateOptions]
    cases r.garden.plant? id with
    | none => rfl
    | some entry =>
      obtain ⟨n, p⟩ := entry
      dsimp only
      split <;> rfl

theorem edit_eq (r : Round) (id : Key) {c : Draft.Command} (hc : c.isTokenEdit = true) :
    ∃ g report, r.edit id c
        = ⟨g, r.derived ++ r.garden.askedIf id fun p => c.isEffective p.draft, report⟩
      ∧ DiffersAt id (fun p => (p.edit c).state) r.garden g := by
  unfold edit askedIf
  cases hplant : r.garden.plant? id with
  | none =>
    exact ⟨r.garden, r.report, by simp, differsAt_of_plant?_eq_none hplant⟩
  | some entry =>
    obtain ⟨n, p⟩ := entry
    have hdiffers := differsAt_setPlant (f := fun p => (p.edit c).state) hplant
    have heffective := Draft.isEffective_eq hc p.draft
    dsimp only [Plant.edit, Outcome.lift] at hdiffers ⊢
    rcases hperform : p.draft.perform c with ⟨d, cause | reply⟩
    · rw [hperform] at hdiffers heffective
      refine ⟨_, ⟨r.report.rebuilt, r.report.warnings ++ [.editRejected id cause]⟩, ?_, hdiffers⟩
      simp [heffective, warn]
    · rw [hperform] at hdiffers heffective
      refine ⟨_, r.report, ?_, hdiffers⟩
      cases hchange : reply.isChange <;> simp [heffective, hchange, request]

theorem updateOptions_eq (r : Round) (id : Key) (o : Options) :
    ∃ g report, r.updateOptions id o
        = ⟨g, r.derived ++ r.garden.askedIf id fun p => !o.same p.options, report⟩
      ∧ DiffersAt id (fun p => if o.same p.options then p else p.setOptions o) r.garden g := by
  unfold updateOptions askedIf
  cases hplant : r.garden.plant? id with
  | none =>
    exact ⟨r.garden, r.report, by simp, differsAt_of_plant?_eq_none hplant⟩
  | some entry =>
    obtain ⟨n, p⟩ := entry
    by_cases hsame : o.same p.options = true
    · refine ⟨r.garden, r.report, by simp [hsame], differsAt_self fun m q hsome => ?_⟩
      rw [hplant] at hsome
      cases hsome
      simp [hsame]
    · refine ⟨_, r.report, ?_, differsAt_setPlant hplant⟩
      simp [hsame, request]

theorem rebuild_eq (h : r.garden.Sturdy) (id : Key) :
    ∃ g report, r.rebuild id = .ok ⟨g, r.derived, report⟩ ()
      ∧ DiffersAt id (fun p => p.rebuild.state) r.garden g := by
  unfold rebuild
  cases hplant : r.garden.plant? id with
  | none =>
    exact ⟨r.garden, r.report, rfl, differsAt_of_plant?_eq_none hplant⟩
  | some entry =>
    obtain ⟨n, p⟩ := entry
    have hdiffers := differsAt_setPlant (f := fun p => p.rebuild.state) hplant
    dsimp only
    rcases hrebuild : p.rebuild with ⟨q, cause | geometry⟩
    · rw [hrebuild] at hdiffers
      cases hending : cause.ending? with
      | none =>
        refine ⟨_, ⟨r.report.rebuilt, r.report.warnings ++ [.rebuildFailed id cause]⟩, ?_, hdiffers⟩
        simp only [hending]
        rfl
      | some mismatch =>
        -- a limit of a fitting kind is refused for what it says only
        have hlimit := Plant.ending_rebuild (p := p) (by rw [hrebuild]) hending
        rw [h.limited n p (plant?_eq_some hplant).2] at hlimit
        have hfault := h.fitting mismatch hlimit
        rw [RebuildError.isValueFault_of_ending hending] at hfault
        cases hfault
    · rw [hrebuild] at hdiffers
      exact ⟨_, _, rfl, hdiffers⟩

theorem handle_spawn (r : Round) (h : TokenTable.reset r.garden.declarations = .ok t ())
    (options : Option Options) :
    r.handle (.spawn options)
      = .ok ⟨{ r.garden with nextPlant := r.garden.nextPlant + 1 }.setPlant r.garden.nextPlant
          (r.garden.newPlant t options), r.derived ++ [.rebuild (.ofNat r.garden.nextPlant)],
          r.report⟩ () := by
  rw [handle, addPlant_eq h]
  rfl

theorem handle_of_plant? (h : r.garden.Sturdy) (hid : e.plant? = some id) :
    ∃ g report, r.handle e = .ok ⟨g, r.derived ++ r.garden.asked e, report⟩ ()
      ∧ DiffersAt id (fun p => e.act p) r.garden g := by
  have hedit {c : Draft.Command} (hc : c.isTokenEdit = true)
      (hhandle : r.handle e = .ok (r.edit id c) ())
      (hasked : r.garden.asked e = r.garden.askedIf id fun p => c.isEffective p.draft)
      (hact : (fun p => e.act p) = fun p => (p.edit c).state) :
      ∃ g report, r.handle e = .ok ⟨g, r.derived ++ r.garden.asked e, report⟩ ()
        ∧ DiffersAt id (fun p => e.act p) r.garden g := by
    obtain ⟨g, report, hresult, hdiffers⟩ := edit_eq r id hc
    exact ⟨g, report, by rw [hhandle, hresult, hasked], by rw [hact]; exact hdiffers⟩
  cases e with
  | spawn options => cases hid
  | rebuild id' =>
    obtain rfl : id' = id := Option.some.inj hid
    obtain ⟨g, report, hresult, hdiffers⟩ := rebuild_eq h id'
    have hasked : r.garden.asked (.rebuild id') = [] := by
      simp only [asked, Event.plant?, askedIf, Event.isEffective]
      cases r.garden.plant? id' <;> rfl
    exact ⟨g, report, by rw [handle, hresult, hasked, List.append_nil], hdiffers⟩
  | addToken id' symbol action =>
    obtain rfl : id' = id := Option.some.inj hid
    exact hedit (c := .addToken symbol action) rfl rfl rfl rfl
  | removeToken id' symbol =>
    obtain rfl : id' = id := Option.some.inj hid
    exact hedit (c := .removeToken symbol) rfl rfl rfl rfl
  | changeToken id' former symbol =>
    obtain rfl : id' = id := Option.some.inj hid
    exact hedit (c := .changeToken former symbol) rfl rfl rfl rfl
  | changeAction id' symbol action =>
    obtain rfl : id' = id := Option.some.inj hid
    exact hedit (c := .changeAction symbol action) rfl rfl rfl rfl
  | updateOptions id' o =>
    obtain rfl : id' = id := Option.some.inj hid
    obtain ⟨g, report, hresult, hdiffers⟩ := updateOptions_eq r id' o
    exact ⟨g, report, by rw [handle, hresult]; rfl, hdiffers⟩

theorem handle_eq (h : r.garden.Sturdy) (e : Event) :
    ∃ report, r.handle e
      = .ok ⟨r.garden.take e, r.derived ++ r.garden.asked e, report⟩ () := by
  have hgarden := r.garden_handle e
  cases hid : e.plant? with
  | none =>
    obtain ⟨t, ht⟩ := h.declared
    cases e with
    | spawn options =>
      rw [handle_spawn r ht] at hgarden ⊢
      exact ⟨r.report, by rw [← hgarden]; rfl⟩
    | _ => cases hid
  | some id =>
    obtain ⟨g, report, hresult, -⟩ := handle_of_plant? h hid
    rw [hresult] at hgarden ⊢
    exact ⟨report, by rw [← hgarden]; rfl⟩

end Round

theorem take_spawn (h : TokenTable.reset g.declarations = .ok t ()) (options : Option Options) :
    g.take (.spawn options)
      = { g with nextPlant := g.nextPlant + 1 }.setPlant g.nextPlant (g.newPlant t options) := by
  rw [take, Round.handle_spawn _ h]
  rfl

theorem step_of_idle (h : g.queue = []) : g.step = .ok g .empty := by
  obtain ⟨declarations, options, limit, plants, nextPlant, queue⟩ := g
  obtain rfl : queue = [] := h
  rfl

def takeAll (g : Garden) (events : List Event) : Garden :=
  events.foldl take g

def askedAll (g : Garden) : List Event → List Event
  | [] => []
  | e :: rest => g.asked e ++ (g.take e).askedAll rest

namespace Sturdy

theorem take_differsAt (h : g.Sturdy) (hid : e.plant? = some id) :
    DiffersAt id (fun p => e.act p) g (g.take e) := by
  obtain ⟨g', report, hresult, hdiffers⟩ := Round.handle_of_plant? (r := ⟨g, [], .empty⟩) h hid
  rw [Garden.take, hresult]
  exact hdiffers

theorem setQueue (h : g.Sturdy) (queue : List Event) :
    ({ g with queue := queue } : Garden).Sturdy :=
  ⟨h.declared, h.fitting, h.limited⟩

theorem take (h : g.Sturdy) (e : Event) : (g.take e).Sturdy := by
  cases hid : e.plant? with
  | none =>
    obtain ⟨t, ht⟩ := h.declared
    cases e with
    | spawn options =>
      rw [take_spawn ht]
      exact ⟨⟨t, ht⟩, h.fitting, Dictionary.forall_get?_put rfl fun m q _ hq => h.limited m q hq⟩
    | _ => cases hid
  | some id =>
    obtain ⟨plants, hgarden, hplants⟩ := h.take_differsAt hid
    rw [hgarden]
    refine ⟨h.declared, h.fitting, fun m q hq => ?_⟩
    rw [hplants] at hq
    split at hq
    · obtain ⟨p, hp, rfl⟩ := Option.map_eq_some_iff.mp hq
      exact (Event.limit_act p e).trans (h.limited m p hp)
    · exact h.limited m q hq

theorem queue_take (h : g.Sturdy) (e : Event) : (g.take e).queue = g.queue := by
  cases hid : e.plant? with
  | none =>
    obtain ⟨t, ht⟩ := h.declared
    cases e with
    | spawn options =>
      rw [take_spawn ht]
      rfl
    | _ => cases hid
  | some id =>
    obtain ⟨plants, hgarden, -⟩ := h.take_differsAt hid
    rw [hgarden]

theorem takeAll (h : g.Sturdy) (events : List Event) : (g.takeAll events).Sturdy := by
  induction events generalizing g with
  | nil => exact h
  | cons e rest ih => exact ih (h.take e)

theorem queue_takeAll (h : g.Sturdy) (events : List Event) :
    (g.takeAll events).queue = g.queue := by
  induction events generalizing g with
  | nil => rfl
  | cons e rest ih => exact (ih (h.take e)).trans (h.queue_take e)

theorem handleAll_eq {r : Round} (h : r.garden.Sturdy) (events : List Event) :
    ∃ report, r.handleAll events
      = .ok ⟨r.garden.takeAll events, r.derived ++ r.garden.askedAll events, report⟩ () := by
  induction events generalizing r with
  | nil => exact ⟨r.report, by rw [askedAll, List.append_nil]; rfl⟩
  | cons e rest ih =>
    obtain ⟨report, hhandle⟩ := Round.handle_eq h e
    obtain ⟨final, hrest⟩ := ih (r := ⟨_, r.derived ++ r.garden.asked e, report⟩) (h.take e)
    refine ⟨final, ?_⟩
    rw [askedAll, ← List.append_assoc, Round.handleAll, hhandle]
    exact hrest

theorem step_eq (h : g.Sturdy) :
    ∃ report, g.step
      = .ok { g.idle.takeAll g.queue with queue := g.idle.askedAll g.queue } report := by
  have hidle : g.idle.Sturdy := h.setQueue []
  obtain ⟨report, hall⟩ := handleAll_eq (r := ⟨g.idle, [], .empty⟩) hidle g.queue
  have hqueue := hidle.queue_takeAll g.queue
  refine ⟨report, ?_⟩
  rw [Garden.step]
  simp only [idle] at hall hqueue ⊢
  rw [hall]
  simp only [Outcome.ok, hqueue, List.nil_append]

theorem step (h : g.Sturdy) : g.step.state.Sturdy := by
  obtain ⟨report, hstep⟩ := h.step_eq
  rw [hstep]
  exact ((h.setQueue []).takeAll g.queue).setQueue _

theorem runFor (h : g.Sturdy) (report : Report) (n : Nat) : (g.runFor report n).state.Sturdy := by
  induction n generalizing g report with
  | zero => exact h
  | succ n ih =>
    obtain ⟨more, hstep⟩ := h.step_eq
    have hnext := h.step
    rw [Garden.runFor]
    split
    · exact h
    · rw [hstep] at hnext ⊢
      exact ih hnext _

theorem state_spawn (h : g.Sturdy) (options : Option Options) :
    (g.spawn options).state = (g.take (.spawn options)).post (.rebuild (.ofNat g.nextPlant)) := by
  obtain ⟨t, ht⟩ := h.declared
  rw [take_spawn ht, spawn, addPlant_eq ht]
  rfl

theorem call (h : g.Sturdy) (c : Call) : (g.call c).Sturdy := by
  cases c with
  | post e => exact h.setQueue _
  | spawn options =>
    rw [Garden.call, h.state_spawn]
    exact (h.take _).setQueue _
  | step => exact h.step
  | runUntilIdle steps =>
    rw [Garden.call, runUntilIdle]
    cases steps.toInteger with
    | error cause => exact h
    | ok n => exact h.runFor _ n.toNat

end Sturdy

end Garden

end LSystem
