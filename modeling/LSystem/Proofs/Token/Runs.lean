import LSystem.Proofs.Token.Consistency
import Mathlib.Data.List.Sort

namespace LSystem.TokenTable

inductive Call where
  | register (symbol : Value) (action : Offer Action)
  | remove (symbol : Value)
  | get (symbol : Value)
  | lookup (symbol : Value)

inductive Reply where
  | registered (id : Nat)
  | entry (e : Option TokenEntry)

def call (t : TokenTable) : Call → Outcome TokenTable TokenError Reply
  | .register symbol action => (t.register symbol action).map .registered
  | .remove symbol => (t.remove symbol).map .entry
  | .get symbol => ⟨t, (t.get symbol).map .entry⟩
  | .lookup symbol => ⟨t, (t.lookup symbol).map fun e => .entry (some e)⟩

def callAll (t : TokenTable) (calls : List Call) : TokenTable :=
  calls.foldl (fun t c => (t.call c).state) t

inductive Command where
  | call (c : Call)
  | reset (declarations : List Declaration)

def perform (t : TokenTable) : Command → TokenTable
  | .call c => (t.call c).state
  | .reset declarations => (reset declarations).state

def performAll (t : TokenTable) (commands : List Command) : TokenTable :=
  commands.foldl perform t

def reached (declarations : List Declaration) (commands : List Command) : TokenTable :=
  (reset declarations).state.performAll commands

def slot? (t : TokenTable) (i : Nat) : Option (Char × TokenEntry) :=
  match t.symbols[i]?.join, t.actions[i]?.join with
  | some c, some a => some (c, ⟨i, a⟩)
  | _, _ => none

def slots (t : TokenTable) : List (Char × TokenEntry) :=
  (List.range t.nextId).filterMap t.slot?

structure Coherent (t : TokenTable) : Prop where
  size_actions : t.actions.size = t.symbols.size
  vacant_together : ∀ i : Nat, t.symbols[i]?.join = none ↔ t.actions[i]?.join = none
  entries_eq_slots : t.entries = t.slots
  increasing : (t.entries.map fun e => e.2.id).Pairwise (· < ·)
  distinct : (t.entries.map Prod.fst).Nodup
  id_injective : ∀ c d e f, t.find? c = some e → t.find? d = some f → e.id = f.id → c = d
  get_iff : ∀ v e, t.get v = .ok (some e) ↔ ∃ c, v.symbol? = some c ∧ (c, e) ∈ t.entries
  get_error_iff : ∀ v cause, t.get v = .error cause ↔ v.isKey = false ∧ .unhashable v = cause
  lookup_iff : ∀ v e, t.lookup v = .ok e ↔ t.get v = .ok (some e)
  contains_iff : ∀ v, t.contains v = .ok true ↔ ∃ e, t.get v = .ok (some e)
  contains_error_iff : ∀ v cause, t.contains v = .error cause ↔ t.get v = .error cause
  symbolOf_iff : ∀ (i : Int) c, t.symbolOf i = some c ↔ ∃ e, (c, e) ∈ t.entries ∧ (e.id : Int) = i
  actionOf_iff : ∀ (i : Int) a,
    t.actionOf i = some a ↔ ∃ c e, (c, e) ∈ t.entries ∧ (e.id : Int) = i ∧ e.action = a
  alphabet_eq : t.symbols.toList = (List.range t.nextId).map fun i : Nat => t.symbolOf i
  actionMap_eq : t.actionMap = t.slots.map fun e => (e.1, e.2.action)
  actionMap_iff : ∀ c a, t.actionMap.get? c = some a ↔ ∃ e, (c, e) ∈ t.entries ∧ e.action = a
  length_eq : t.entries.length = t.symbols.toList.countP Option.isSome

variable {t : TokenTable}

theorem symbolOf_natCast (t : TokenTable) (i : Nat) : t.symbolOf i = t.symbols[i]?.join := by
  have h0 : ¬ (i : Int) < 0 := Int.not_lt.mpr (Int.natCast_nonneg i)
  rw [symbolOf, if_neg h0, Int.toNat_natCast]

theorem actionOf_natCast (t : TokenTable) (i : Nat) : t.actionOf i = t.actions[i]?.join := by
  have h0 : ¬ (i : Int) < 0 := Int.not_lt.mpr (Int.natCast_nonneg i)
  rw [actionOf, if_neg h0, Int.toNat_natCast]

theorem symbolOf_of_neg (t : TokenTable) {i : Int} (h : i < 0) : t.symbolOf i = none :=
  if_pos h

theorem actionOf_of_neg (t : TokenTable) {i : Int} (h : i < 0) : t.actionOf i = none :=
  if_pos h

namespace Consistent

theorem slot?_eq_some_iff (h : t.Consistent) {i : Nat} {c : Char} {e : TokenEntry} :
    t.slot? i = some (c, e) ↔ (c, e) ∈ t.entries ∧ e.id = i := by
  constructor
  · intro hslot
    unfold slot? at hslot
    split at hslot
    · next d a hd ha =>
      cases hslot
      obtain ⟨b, hb⟩ := (h.symbol_iff i c).mp (Option.join_eq_some_iff.mp hd)
      obtain ⟨x, hx⟩ := (h.action_iff i a).mp (Option.join_eq_some_iff.mp ha)
      -- both slots stand for one entry, as no two entries have the same id
      obtain rfl := h.symbol_unique hb hx rfl
      exact ⟨hx, rfl⟩
    · cases hslot
  · rintro ⟨he, rfl⟩
    have hsymbol : t.symbols[e.id]?.join = some c :=
      Option.join_eq_some_iff.mpr ((h.symbol_iff e.id c).mpr ⟨e.action, he⟩)
    have haction : t.actions[e.id]?.join = some e.action :=
      Option.join_eq_some_iff.mpr ((h.action_iff e.id e.action).mpr ⟨c, he⟩)
    simp only [slot?, hsymbol, haction]

theorem mem_slots_iff (h : t.Consistent) (e : Char × TokenEntry) :
    e ∈ t.slots ↔ e ∈ t.entries := by
  simp only [slots, List.mem_filterMap, List.mem_range]
  constructor
  · rintro ⟨i, -, hi⟩
    exact (h.slot?_eq_some_iff.mp hi).1
  · intro he
    exact ⟨e.2.id, h.id_lt he, h.slot?_eq_some_iff.mpr ⟨he, rfl⟩⟩

theorem pairwise_slots (h : t.Consistent) : t.slots.Pairwise fun e f => e.2.id < f.2.id := by
  refine List.pairwise_filterMap.mpr (List.pairwise_lt_range.imp ?_)
  intro i j hij e he f hf
  have hi := (h.slot?_eq_some_iff.mp he).2
  have hj := (h.slot?_eq_some_iff.mp hf).2
  omega

theorem entries_eq_slots (h : t.Consistent) : t.entries = t.slots := by
  have hirrefl : Std.Irrefl fun e f : Char × TokenEntry => e.2.id < f.2.id :=
    ⟨fun e => Nat.lt_irrefl e.2.id⟩
  have hantisymm : Std.Antisymm fun e f : Char × TokenEntry => e.2.id < f.2.id :=
    ⟨fun _ _ hlt hgt => (Nat.lt_asymm hlt hgt).elim⟩
  exact h.increasing.eq_of_mem_iff h.pairwise_slots fun e => (h.mem_slots_iff e).symm

theorem vacant_together (h : t.Consistent) (i : Nat) :
    t.symbols[i]?.join = none ↔ t.actions[i]?.join = none := by
  simp only [Option.eq_none_iff_forall_ne_some, ne_eq, Option.join_eq_some_iff, h.symbol_iff,
    h.action_iff]
  constructor
  · rintro hnone a ⟨c, hc⟩
    exact hnone c ⟨a, hc⟩
  · rintro hnone c ⟨a, ha⟩
    exact hnone a ⟨c, ha⟩

theorem get_eq_some_iff (h : t.Consistent) (v : Value) (e : TokenEntry) :
    t.get v = .ok (some e) ↔ ∃ c, v.symbol? = some c ∧ (c, e) ∈ t.entries := by
  simp only [TokenTable.get_eq_some_iff, h.find?_eq_some_iff]

theorem symbolOf_eq_some_iff (h : t.Consistent) (i : Int) (c : Char) :
    t.symbolOf i = some c ↔ ∃ e, (c, e) ∈ t.entries ∧ (e.id : Int) = i := by
  rcases Int.lt_or_le i 0 with hneg | hnonneg
  · rw [symbolOf_of_neg t hneg]
    constructor
    · intro hnone
      cases hnone
    · rintro ⟨e, -, hid⟩
      omega
  · obtain ⟨n, rfl⟩ := Int.eq_ofNat_of_zero_le hnonneg
    rw [symbolOf_natCast, Option.join_eq_some_iff, h.symbol_iff]
    constructor
    · rintro ⟨a, ha⟩
      exact ⟨⟨n, a⟩, ha, rfl⟩
    · rintro ⟨e, he, hid⟩
      obtain rfl := Int.ofNat.inj hid
      exact ⟨e.action, he⟩

theorem actionOf_eq_some_iff (h : t.Consistent) (i : Int) (a : Action) :
    t.actionOf i = some a ↔ ∃ c e, (c, e) ∈ t.entries ∧ (e.id : Int) = i ∧ e.action = a := by
  rcases Int.lt_or_le i 0 with hneg | hnonneg
  · rw [actionOf_of_neg t hneg]
    constructor
    · intro hnone
      cases hnone
    · rintro ⟨c, e, -, hid, -⟩
      omega
  · obtain ⟨n, rfl⟩ := Int.eq_ofNat_of_zero_le hnonneg
    rw [actionOf_natCast, Option.join_eq_some_iff, h.action_iff]
    constructor
    · rintro ⟨c, hc⟩
      exact ⟨c, ⟨n, a⟩, hc, rfl, rfl⟩
    · rintro ⟨c, e, he, hid, rfl⟩
      obtain rfl := Int.ofNat.inj hid
      exact ⟨c, he⟩

theorem actionMap_eq_some_iff (h : t.Consistent) (c : Char) (a : Action) :
    t.actionMap.get? c = some a ↔ ∃ e, (c, e) ∈ t.entries ∧ e.action = a := by
  simp only [get?_actionMap, Option.map_eq_some_iff, h.find?_eq_some_iff]

theorem isSome_slot? (h : t.Consistent) (i : Nat) :
    (t.slot? i).isSome = (t.symbolOf i).isSome := by
  have hvacant := h.vacant_together i
  rw [symbolOf_natCast, slot?]
  cases hsymbol : t.symbols[i]?.join with
  | none => rfl
  | some c =>
    cases haction : t.actions[i]?.join with
    | none =>
      rw [hvacant.mpr haction] at hsymbol
      cases hsymbol
    | some a => rfl

end Consistent

theorem alphabet_eq_map_symbolOf (t : TokenTable) :
    t.symbols.toList = (List.range t.nextId).map fun i : Nat => t.symbolOf i := by
  simp only [symbolOf_natCast, nextId]
  apply List.ext_getElem
  · simp
  · intro i hi _
    have hsize : i < t.symbols.size := hi
    simp [hsize]

theorem Consistent.length_entries (h : t.Consistent) :
    t.entries.length = t.symbols.toList.countP Option.isSome :=
  calc t.entries.length
      = (List.range t.nextId).countP fun i => (t.slot? i).isSome := by
        rw [h.entries_eq_slots, slots, List.length_filterMap_eq_countP]
    _ = (List.range t.nextId).countP fun i : Nat => (t.symbolOf i).isSome := by
        simp only [h.isSome_slot?]
    _ = t.symbols.toList.countP Option.isSome := by
        rw [t.alphabet_eq_map_symbolOf, List.countP_map]
        rfl

theorem Consistent.coherent (h : t.Consistent) : t.Coherent where
  size_actions := h.size_actions
  vacant_together := h.vacant_together
  entries_eq_slots := h.entries_eq_slots
  increasing := List.pairwise_map.mpr h.increasing
  distinct := h.distinct
  id_injective c d e f hc hd hid :=
    h.symbol_unique (h.find?_eq_some_iff.mp hc) (h.find?_eq_some_iff.mp hd) hid
  get_iff := h.get_eq_some_iff
  get_error_iff _ _ := get_eq_error_iff
  lookup_iff v e := by
    unfold lookup
    rcases t.get v with cause | (_ | e') <;> simp
  contains_iff v := by
    unfold contains
    rcases t.get v with cause | (_ | e') <;> simp [Except.map]
  contains_error_iff v cause := by
    unfold contains
    rcases t.get v with cause' | (_ | e') <;> simp [Except.map]
  symbolOf_iff := h.symbolOf_eq_some_iff
  actionOf_iff := h.actionOf_eq_some_iff
  alphabet_eq := t.alphabet_eq_map_symbolOf
  actionMap_eq := by rw [actionMap, h.entries_eq_slots]
  actionMap_iff := h.actionMap_eq_some_iff
  length_eq := h.length_entries

theorem Consistent.call (h : t.Consistent) (c : Call) : (t.call c).state.Consistent := by
  cases c with
  | register symbol action => exact h.register symbol action
  | remove symbol => exact h.remove symbol
  | get symbol => exact h
  | lookup symbol => exact h

theorem Consistent.perform (h : t.Consistent) (c : Command) : (t.perform c).Consistent := by
  cases c with
  | call c => exact h.call c
  | reset declarations => exact Consistent.reset declarations

theorem Consistent.performAll (h : t.Consistent) (commands : List Command) :
    (t.performAll commands).Consistent := by
  induction commands generalizing t with
  | nil => exact h
  | cons c commands ih => exact ih (h.perform c)

theorem consistent_reached (declarations : List Declaration) (commands : List Command) :
    (reached declarations commands).Consistent :=
  (Consistent.reset declarations).performAll commands

theorem reached_coherent (declarations : List Declaration) (commands : List Command) :
    (reached declarations commands).Coherent :=
  (consistent_reached declarations commands).coherent

end LSystem.TokenTable
