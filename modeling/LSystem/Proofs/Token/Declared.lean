import LSystem.Plant.Options
import LSystem.Proofs.Grammar.Spelling

namespace LSystem.TokenTable

variable {t : TokenTable} {tokens : List (Char × Action)}

def insertAll (t : TokenTable) (tokens : List (Char × Action)) : TokenTable :=
  tokens.foldl (fun t e => t.insert e.1 e.2) t

def listed (tokens : List (Char × Action)) : TokenTable :=
  empty.insertAll tokens

theorem registerAll_declare (t : TokenTable) (tokens : List (Char × Action)) :
    t.registerAll (declare tokens) = .ok (t.insertAll tokens) () := by
  induction tokens generalizing t with
  | nil => rfl
  | cons e tokens ih =>
    have hreg : t.register (.text e.1.toString) (.proper e.2)
        = .ok (t.insert e.1 e.2) t.nextId := by
      simp only [register, Value.symbol?_toString]
    have hfirst : declare (e :: tokens) = .of e.1 e.2 :: declare tokens := rfl
    rw [hfirst, registerAll, Declaration.of, hreg]
    exact ih _

theorem reset_declare (tokens : List (Char × Action)) :
    reset (declare tokens) = .ok (listed tokens) () :=
  registerAll_declare empty tokens

theorem Consistent.insertAll (h : t.Consistent) (tokens : List (Char × Action)) :
    (t.insertAll tokens).Consistent := by
  induction tokens generalizing t with
  | nil => exact h
  | cons e tokens ih => exact ih (h.insert e.1 e.2)

theorem consistent_listed (tokens : List (Char × Action)) : (listed tokens).Consistent :=
  consistent_empty.insertAll tokens

theorem knows_insert (t : TokenTable) (c d : Char) (a : Action) :
    (t.insert c a).knows d = true ↔ d = c ∨ t.knows d = true := by
  by_cases h : d = c
  · simp [knows, h]
  · simp [knows, h, find?_insert_of_ne t a h]

theorem knows_insertAll (t : TokenTable) (tokens : List (Char × Action)) (c : Char) :
    (t.insertAll tokens).knows c = true ↔ c ∈ tokens.map Prod.fst ∨ t.knows c = true := by
  induction tokens generalizing t with
  | nil => simp [insertAll]
  | cons e tokens ih =>
    change ((t.insert e.1 e.2).insertAll tokens).knows c = true ↔ _
    rw [ih, knows_insert, List.map_cons, List.mem_cons, or_left_comm, or_assoc]

theorem knows_listed (tokens : List (Char × Action)) (c : Char) :
    (listed tokens).knows c = true ↔ c ∈ tokens.map Prod.fst := by
  rw [listed, knows_insertAll]
  simp [knows]

theorem actionMap_insert (hc : t.find? c = none) (a : Action) :
    (t.insert c a).actionMap = t.actionMap ++ [(c, a)] := by
  simp [insert, actionMap, erase_of_find?_eq_none hc]

theorem actionMap_insertAll (hnew : ∀ e ∈ tokens, t.find? e.1 = none)
    (hdistinct : (tokens.map Prod.fst).Nodup) :
    (t.insertAll tokens).actionMap = t.actionMap ++ tokens := by
  induction tokens generalizing t with
  | nil => simp [insertAll]
  | cons e tokens ih =>
    obtain ⟨hfirst, hrest⟩ := List.nodup_cons.mp hdistinct
    have hnext : ∀ x ∈ tokens, (t.insert e.1 e.2).find? x.1 = none := by
      intro x hx
      have hne : x.1 ≠ e.1 := fun heq => hfirst (heq ▸ List.mem_map_of_mem hx)
      rw [find?_insert_of_ne t e.2 hne]
      exact hnew x (by simp [hx])
    change ((t.insert e.1 e.2).insertAll tokens).actionMap = _
    rw [ih hnext hrest, actionMap_insert (hnew e (by simp))]
    simp

theorem Consistent.actionMap_listed (h : t.Consistent) :
    (listed t.actionMap).actionMap = t.actionMap := by
  have hkeys : t.actionMap.map Prod.fst = t.entries.map Prod.fst := by
    simp [actionMap, Function.comp_def]
  rw [listed, actionMap_insertAll (fun _ _ => rfl) (hkeys ▸ h.distinct)]
  rfl

end LSystem.TokenTable
