import LSystem.Proofs.Token.Runs
import LSystem.Proofs.Turtle.Interpretation

namespace LSystem.TokenTable

def issuedBy (t : TokenTable) (c : Call) : List Nat :=
  match (t.call c).answer with
  | .ok (.registered id) => [id]
  | _ => []

def issuedByAll (t : TokenTable) : List Declaration → List Nat
  | [] => []
  | d :: rest =>
    match t.register d.symbol d.action with
    | ⟨t, .ok id⟩ => id :: t.issuedByAll rest
    | ⟨_, .error _⟩ => []

def issuedSince (t : TokenTable) (ids : List Nat) : List Command → List Nat
  | [] => ids
  | .call c :: rest => (t.call c).state.issuedSince (ids ++ t.issuedBy c) rest
  | .reset declarations :: rest =>
    (reset declarations).state.issuedSince (empty.issuedByAll declarations) rest

def handedOut (declarations : List Declaration) (commands : List Command) : List Nat :=
  (reset declarations).state.issuedSince (empty.issuedByAll declarations) commands

/-- A later table of the same life: each slot is as it was, or vacant. -/
structure Continues (t u : TokenTable) : Prop where
  nextId_le : t.nextId ≤ u.nextId
  slot : ∀ i : Nat, i < t.nextId →
    (u.symbolOf i = t.symbolOf i ∧ u.actionOf i = t.actionOf i)
      ∨ (u.symbolOf i = none ∧ u.actionOf i = none)

namespace Continues

variable {t u v : TokenTable}

theorem refl (t : TokenTable) : t.Continues t :=
  ⟨Nat.le_refl t.nextId, fun _ _ => Or.inl ⟨rfl, rfl⟩⟩

theorem trans (h : t.Continues u) (h' : u.Continues v) : t.Continues v := by
  refine ⟨Nat.le_trans h.nextId_le h'.nextId_le, fun i hi => ?_⟩
  rcases h'.slot i (Nat.lt_of_lt_of_le hi h.nextId_le) with ⟨hsymbol, haction⟩ | hvacant
  · rw [hsymbol, haction]
    exact h.slot i hi
  · exact Or.inr hvacant

theorem actionOf (h : t.Continues u) {i : Int} (hi : i < t.nextId) :
    u.actionOf i = t.actionOf i ∨ u.actionOf i = none := by
  rcases Int.lt_or_le i 0 with hneg | hnonneg
  · exact Or.inr (actionOf_of_neg u hneg)
  · obtain ⟨n, rfl⟩ := Int.eq_ofNat_of_zero_le hnonneg
    rcases h.slot n (Int.ofNat_lt.mp hi) with ⟨-, hsame⟩ | ⟨-, hnone⟩
    · exact Or.inl hsame
    · exact Or.inr hnone

end Continues

variable {t : TokenTable}

theorem continues_erase (t : TokenTable) (c : Char) : t.Continues (t.erase c) := by
  refine ⟨Nat.le_of_eq (t.nextId_erase c).symm, fun i _ => ?_⟩
  simp only [symbolOf_natCast, actionOf_natCast]
  cases hc : t.find? c with
  | none =>
    rw [erase_of_find?_eq_none hc]
    exact Or.inl ⟨rfl, rfl⟩
  | some e =>
    by_cases hi : e.id = i
    · right
      simp only [erase, hc, Array.getElem?_setIfInBounds, if_pos hi]
      constructor <;> split <;> rfl
    · left
      simp only [erase, hc, Array.getElem?_setIfInBounds, if_neg hi, and_self]

theorem Consistent.continues_insert (h : t.Consistent) (c : Char) (a : Action) :
    t.Continues (t.insert c a) := by
  refine (continues_erase t c).trans ⟨?_, fun i hi => Or.inl ?_⟩
  · rw [nextId_erase, nextId_insert]
    exact Nat.le_succ t.nextId
  · -- what is new stands behind all slots there are
    have hsymbols : i ≠ (t.erase c).symbols.size := Nat.ne_of_lt hi
    have hactions : i ≠ (t.erase c).actions.size := (h.erase c).size_actions ▸ hsymbols
    simp only [symbolOf_natCast, actionOf_natCast, TokenTable.insert, Array.getElem?_push,
      if_neg hsymbols, if_neg hactions, and_self]

theorem Consistent.continues_call (h : t.Consistent) (c : Call) :
    t.Continues (t.call c).state := by
  cases c with
  | register symbol action =>
    change t.Continues (t.register symbol action).state
    rcases t.register_cases symbol action with ⟨c, a, -, -, hok⟩ | ⟨e, -, hfail⟩
    · rw [hok]
      exact h.continues_insert c a
    · rw [hfail]
      exact .refl t
  | remove symbol =>
    change t.Continues (t.remove symbol).state
    rcases t.state_remove symbol with hsame | ⟨c, herased⟩
    · rw [hsame]
      exact .refl t
    · rw [herased]
      exact continues_erase t c
  | get symbol => exact .refl t
  | lookup symbol => exact .refl t

theorem Consistent.continues_callAll (h : t.Consistent) (calls : List Call) :
    t.Continues (t.callAll calls) := by
  induction calls generalizing t with
  | nil => exact .refl t
  | cons c calls ih => exact (h.continues_call c).trans (ih (h.call c))

theorem range_issuedBy (t : TokenTable) (c : Call) :
    List.range t.nextId ++ t.issuedBy c = List.range (t.call c).state.nextId := by
  cases c with
  | register symbol action =>
    rcases t.register_cases symbol action with ⟨c, a, -, -, hok⟩ | ⟨e, -, hfail⟩
    · simp only [issuedBy, call, hok]
      change List.range t.nextId ++ [t.nextId] = List.range (t.insert c a).nextId
      rw [nextId_insert, List.range_succ]
    · simp only [issuedBy, call, hfail]
      exact List.append_nil _
  | remove symbol =>
    have hnone : t.issuedBy (.remove symbol) = [] := by
      rw [issuedBy, call]
      rcases t.remove symbol with ⟨u, cause | e⟩ <;> rfl
    have hnext : (t.remove symbol).state.nextId = t.nextId := by
      rcases t.state_remove symbol with hsame | ⟨c, herased⟩
      · rw [hsame]
      · rw [herased, nextId_erase]
    rw [hnone, List.append_nil]
    exact congrArg List.range hnext.symm
  | get symbol =>
    simp only [issuedBy, call]
    cases t.get symbol <;> exact List.append_nil _
  | lookup symbol =>
    simp only [issuedBy, call]
    cases t.lookup symbol <;> exact List.append_nil _

theorem range_issuedByAll (t : TokenTable) (declarations : List Declaration) :
    List.range t.nextId ++ t.issuedByAll declarations
      = List.range (t.registerAll declarations).state.nextId := by
  induction declarations generalizing t with
  | nil => exact List.append_nil _
  | cons d rest ih =>
    rw [issuedByAll, registerAll]
    rcases t.register_cases d.symbol d.action with ⟨c, a, -, -, hok⟩ | ⟨e, -, hfail⟩
    · rw [hok]
      have hrest := ih (t.insert c a)
      rw [nextId_insert, List.range_succ, List.append_assoc] at hrest
      exact hrest
    · rw [hfail]
      exact List.append_nil _

theorem issuedSince_range (t : TokenTable) (commands : List Command) :
    t.issuedSince (List.range t.nextId) commands
      = List.range (t.performAll commands).nextId := by
  induction commands generalizing t with
  | nil => rfl
  | cons c commands ih =>
    cases c with
    | call c =>
      rw [issuedSince, range_issuedBy]
      exact ih (t.call c).state
    | reset declarations =>
      have hbegin : empty.issuedByAll declarations
          = List.range (reset declarations).state.nextId :=
        empty.range_issuedByAll declarations
      rw [issuedSince, hbegin]
      exact ih (reset declarations).state

theorem handedOut_eq_range (declarations : List Declaration) (commands : List Command) :
    handedOut declarations commands = List.range (reached declarations commands).nextId := by
  have hbegin : empty.issuedByAll declarations = List.range (reset declarations).state.nextId :=
    empty.range_issuedByAll declarations
  rw [handedOut, hbegin]
  exact issuedSince_range _ commands

theorem reached_append_call (declarations : List Declaration) (commands : List Command)
    (calls : List Call) :
    reached declarations (commands ++ calls.map .call)
      = (reached declarations commands).callAll calls := by
  rw [reached, performAll, List.foldl_append, List.foldl_map]
  rfl

theorem continues_reached (declarations : List Declaration) (before : List Command)
    (between : List Call) :
    (reached declarations before).Continues
      (reached declarations (before ++ between.map .call)) := by
  rw [reached_append_call]
  exact (consistent_reached declarations before).continues_callAll between

theorem not_mem_handedOut_of_register {declarations : List Declaration}
    {commands : List Command} {symbol : Value} {action : Offer Action} {id : Nat}
    (h : ((reached declarations commands).register symbol action).answer = .ok id) :
    id ∉ handedOut declarations commands := by
  rw [handedOut_eq_range, List.mem_range]
  rcases (reached declarations commands).register_cases symbol action with
    ⟨c, a, -, -, hok⟩ | ⟨e, -, hfail⟩
  · rw [hok] at h
    obtain rfl := Except.ok.inj h
    exact Nat.lt_irrefl _
  · rw [hfail] at h
    cases h

theorem exists_of_symbolOf {i : Int} {c : Char} (h : t.symbolOf i = some c) :
    ∃ n : Nat, n < t.nextId ∧ i = n := by
  rcases Int.lt_or_le i 0 with hneg | hnonneg
  · rw [symbolOf_of_neg t hneg] at h
    cases h
  · obtain ⟨n, rfl⟩ := Int.eq_ofNat_of_zero_le hnonneg
    rw [symbolOf_natCast] at h
    exact ⟨n, (Array.getElem?_eq_some_iff.mp (Option.join_eq_some_iff.mp h)).1, rfl⟩

theorem Continues.interpret {u : TokenTable} (h : t.Continues u) (pen : Pen) {ids : Array Int}
    (hids : ∀ id ∈ ids, id < t.nextId) :
    ∃ actions, List.Forall₂ (fun id action => action = t.actionOf id ∨ action = none) ids.toList
        actions
      ∧ Turtle.interpret u.actionOf pen ids = .ofItems (Turtle.walk (.ofDegrees pen.rotationAngle)
          pen.segmentLength actions) := by
  refine ⟨ids.toList.map u.actionOf, ?_, ?_⟩
  · rw [List.forall₂_map_right_iff, List.forall₂_same]
    intro id hid
    exact h.actionOf (hids id (Array.mem_toList_iff.mp hid))
  · exact Turtle.interpret_eq_walk u.actionOf pen ids

theorem ids_are_never_reused (declarations : List Declaration) (before : List Command)
    (between : List Call) :
    let t := reached declarations before
    let u := reached declarations (before ++ between.map .call)
    (∀ i c a, t.symbolOf i = some c → t.actionOf i = some a →
        (u.symbolOf i = some c ∧ u.actionOf i = some a)
          ∨ (u.symbolOf i = none ∧ u.actionOf i = none))
      ∧ (∀ i : Nat, i < t.nextId → t.symbolOf i = none → t.actionOf i = none →
          u.symbolOf i = none ∧ u.actionOf i = none)
      ∧ (∀ first symbol action rest id, between = first ++ .register symbol action :: rest →
          ((reached declarations (before ++ first.map .call)).register symbol action).answer
            = .ok id →
          id ∉ handedOut declarations (before ++ first.map .call))
      ∧ ∀ (pen : Pen) (ids : Array Int), (∀ id ∈ ids, id < t.nextId) →
          ∃ actions,
            List.Forall₂ (fun id action => action = t.actionOf id ∨ action = none) ids.toList
              actions
            ∧ Turtle.interpret u.actionOf pen ids = .ofItems
                (Turtle.walk (.ofDegrees pen.rotationAngle) pen.segmentLength actions) := by
  intro t u
  have hcontinues : t.Continues u := continues_reached declarations before between
  refine ⟨?_, ?_, ?_, ?_⟩
  · intro i c a hsymbol haction
    obtain ⟨n, hn, rfl⟩ := exists_of_symbolOf hsymbol
    rw [← hsymbol, ← haction]
    exact hcontinues.slot n hn
  · intro i hi hsymbol haction
    rcases hcontinues.slot i hi with ⟨hsame, hsame'⟩ | hvacant
    · exact ⟨hsame.trans hsymbol, hsame'.trans haction⟩
    · exact hvacant
  · intro first symbol action rest id _ hid
    exact not_mem_handedOut_of_register hid
  · intro pen ids hids
    exact hcontinues.interpret pen hids

def renewal : List Command :=
  [.reset [.of 'A' .forward, .of 'B' .nothing], .call (.register (.text "A") (.proper .forward))]

def removal : List Call :=
  [.remove (.text "B"), .register (.text "CC") (.proper .push), .lookup (.text "B"),
    .register (.text "B") (.proper .pop)]

theorem ids_are_never_reused_renewed :
    (reached [.of 'C' .pop] renewal).symbolOf 1 = some 'B'
      ∧ (reached [.of 'C' .pop] renewal).actionOf 1 = some .nothing
      ∧ ((reached [.of 'C' .pop] (renewal ++ removal.map .call)).symbolOf 1 = some 'B'
            ∧ (reached [.of 'C' .pop] (renewal ++ removal.map .call)).actionOf 1 = some .nothing
          ∨ (reached [.of 'C' .pop] (renewal ++ removal.map .call)).symbolOf 1 = none
            ∧ (reached [.of 'C' .pop] (renewal ++ removal.map .call)).actionOf 1 = none)
      ∧ (reached [.of 'C' .pop] renewal).symbolOf 0 = none
      ∧ (reached [.of 'C' .pop] (renewal ++ removal.map .call)).symbolOf 0 = none
      ∧ handedOut [.of 'C' .pop] (renewal ++ (removal.take 3).map .call) = [0, 1, 2]
      ∧ 3 ∉ handedOut [.of 'C' .pop] (renewal ++ (removal.take 3).map .call)
      ∧ ∃ actions,
          List.Forall₂ (fun id action => action = (reached [.of 'C' .pop] renewal).actionOf id
            ∨ action = none) [2, 1, 0] actions
          ∧ Turtle.interpret (reached [.of 'C' .pop] (renewal ++ removal.map .call)).actionOf
              ⟨1, 90⟩ #[2, 1, 0] = .ofItems (Turtle.walk (.ofDegrees 90) 1 actions) := by
  obtain ⟨hkept, hvacant, hnew, hdrawn⟩ := ids_are_never_reused [.of 'C' .pop] renewal removal
  have hsymbol : (reached [.of 'C' .pop] renewal).symbolOf 1 = some 'B' := by decide
  have haction : (reached [.of 'C' .pop] renewal).actionOf 1 = some .nothing := by decide
  have hretired : (reached [.of 'C' .pop] renewal).symbolOf 0 = none := by decide
  refine ⟨hsymbol, haction, hkept 1 'B' .nothing hsymbol haction, hretired, ?_, by decide, ?_, ?_⟩
  · exact (hvacant 0 (by decide) hretired (by decide)).1
  · exact hnew (removal.take 3) (.text "B") (.proper .pop) [] 3 rfl rfl
  · exact hdrawn ⟨1, 90⟩ #[2, 1, 0] (by decide)

end LSystem.TokenTable
