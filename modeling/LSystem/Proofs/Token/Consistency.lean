import LSystem.Proofs.Dictionary
import LSystem.Token.Table

namespace LSystem

namespace TokenTable

structure Consistent (t : TokenTable) : Prop where
  size_actions : t.actions.size = t.symbols.size
  distinct : (t.entries.map Prod.fst).Nodup
  increasing : t.entries.Pairwise fun e f => e.2.id < f.2.id
  symbol_iff : ∀ i c, t.symbols[i]? = some (some c) ↔ ∃ a, (c, ⟨i, a⟩) ∈ t.entries
  action_iff : ∀ i a, t.actions[i]? = some (some a) ↔ ∃ c, (c, ⟨i, a⟩) ∈ t.entries

inductive Refuses : Value → Offer Action → TokenError → Prop
  | symbol {symbol : Value} {action : Offer Action} (h : symbol.symbol? = none) :
      Refuses symbol action (.badSymbol symbol)
  | action {symbol v : Value} {c : Char} (h : symbol.symbol? = some c) :
      Refuses symbol (.other v) (.notAction v)

theorem register_of_refuses (t : TokenTable) {symbol : Value} {action : Offer Action}
    {e : TokenError} (h : Refuses symbol action e) : t.register symbol action = .fail t e := by
  cases h with
  | symbol h => simp only [register, h]
  | action h => simp only [register, h]

theorem register_cases (t : TokenTable) (symbol : Value) (action : Offer Action) :
    (∃ c a, symbol.symbol? = some c ∧ action = .proper a
        ∧ t.register symbol action = .ok (t.insert c a) t.nextId)
      ∨ ∃ e, Refuses symbol action e ∧ t.register symbol action = .fail t e := by
  cases hs : symbol.symbol? with
  | none => exact Or.inr ⟨_, .symbol hs, t.register_of_refuses (.symbol hs)⟩
  | some c =>
    cases action with
    | proper a => exact Or.inl ⟨c, a, rfl, rfl, by simp only [register, hs]⟩
    | other v => exact Or.inr ⟨_, .action hs, t.register_of_refuses (.action hs)⟩

theorem remove_cases (t : TokenTable) (symbol : Value) :
    (symbol.isKey = false ∧ t.entries ≠ [] ∧ t.remove symbol = .fail t (.unhashable symbol))
      ∨ t.remove symbol = .ok t none
      ∨ ∃ c, t.remove symbol = .ok (t.erase c) (t.find? c) := by
  rw [remove]
  split
  · cases symbol.symbol? with
    | none => exact Or.inr (Or.inl rfl)
    | some c => exact Or.inr (Or.inr ⟨c, rfl⟩)
  · next hasked =>
    simp only [Bool.or_eq_true, List.isEmpty_iff, not_or, Bool.not_eq_true] at hasked
    exact Or.inl ⟨hasked.1, hasked.2, rfl⟩

theorem state_remove (t : TokenTable) (symbol : Value) :
    (t.remove symbol).state = t ∨ ∃ c, (t.remove symbol).state = t.erase c := by
  rcases t.remove_cases symbol with ⟨-, -, hfail⟩ | hnone | ⟨c, hsome⟩
  · exact Or.inl (congrArg Outcome.state hfail)
  · exact Or.inl (congrArg Outcome.state hnone)
  · exact Or.inr ⟨c, congrArg Outcome.state hsome⟩

theorem get?_actionMap (t : TokenTable) (c : Char) :
    t.actionMap.get? c = (t.find? c).map TokenEntry.action :=
  Dictionary.get?_map_values TokenEntry.action t.entries c

theorem consistent_empty : empty.Consistent := by
  constructor <;> simp [empty]

namespace Consistent

variable {t : TokenTable}

theorem find?_eq_some_iff (h : t.Consistent) {c : Char} {e : TokenEntry} :
    t.find? c = some e ↔ (c, e) ∈ t.entries :=
  Dictionary.get?_eq_some_iff h.distinct

theorem id_lt (h : t.Consistent) {c : Char} {e : TokenEntry} (he : (c, e) ∈ t.entries) :
    e.id < t.nextId := by
  have hs : t.symbols[e.id]? = some (some c) := (h.symbol_iff e.id c).mpr ⟨e.action, he⟩
  exact (Array.getElem?_eq_some_iff.mp hs).1

theorem entry_unique (h : t.Consistent) {c : Char} {e f : TokenEntry} (he : (c, e) ∈ t.entries)
    (hf : (c, f) ∈ t.entries) : e = f := by
  have hs := h.find?_eq_some_iff.mpr he
  rw [h.find?_eq_some_iff.mpr hf] at hs
  exact (Option.some.inj hs).symm

theorem symbol_unique (h : t.Consistent) {c d : Char} {e f : TokenEntry} (he : (c, e) ∈ t.entries)
    (hf : (d, f) ∈ t.entries) (hid : e.id = f.id) : c = d := by
  have hc : t.symbols[e.id]? = some (some c) := (h.symbol_iff e.id c).mpr ⟨e.action, he⟩
  have hd : t.symbols[f.id]? = some (some d) := (h.symbol_iff f.id d).mpr ⟨f.action, hf⟩
  rw [hid, hd] at hc
  simpa using hc.symm

theorem mem_erase_iff (h : t.Consistent) {c d : Char} {e f : TokenEntry}
    (hc : (c, e) ∈ t.entries) :
    (d, f) ∈ t.entries.erase c ↔ (d, f) ∈ t.entries ∧ f.id ≠ e.id := by
  rw [Dictionary.mem_erase]
  constructor
  · rintro ⟨hd, hne⟩
    exact ⟨hd, fun hid => hne (h.symbol_unique hd hc hid)⟩
  · rintro ⟨hd, hid⟩
    refine ⟨hd, ?_⟩
    rintro rfl
    exact hid (congrArg TokenEntry.id (h.entry_unique hd hc))

theorem erase (h : t.Consistent) (c : Char) : (t.erase c).Consistent := by
  cases hc : t.find? c with
  | none => rwa [erase_of_find?_eq_none hc]
  | some e =>
    have hm := h.find?_eq_some_iff.mp hc
    simp only [TokenTable.erase, hc]
    refine ⟨?_, ?_, ?_, ?_, ?_⟩
    · simp [h.size_actions]
    · exact h.distinct.sublist (List.filter_sublist.map _)
    · exact h.increasing.filter _
    · intro i d
      simp only [Array.getElem?_setIfInBounds, h.mem_erase_iff hm]
      by_cases hi : e.id = i
      · simp [hi]
      · simp [hi, Ne.symm hi, h.symbol_iff]
    · intro i a
      simp only [Array.getElem?_setIfInBounds, h.mem_erase_iff hm]
      by_cases hi : e.id = i
      · simp [hi]
      · simp [hi, Ne.symm hi, h.action_iff]

theorem append (h : t.Consistent) {c : Char} (hc : t.find? c = none) (a : Action) :
    Consistent ⟨t.entries ++ [(c, ⟨t.nextId, a⟩)], t.symbols.push (some c),
      t.actions.push (some a)⟩ := by
  have hfree : ∀ e, (c, e) ∉ t.entries := by
    intro e hm
    rw [h.find?_eq_some_iff.mpr hm] at hc
    exact Option.some_ne_none e hc
  -- no entry has the id that comes next
  have hnew : ∀ d b, (d, ⟨t.nextId, b⟩) ∉ t.entries := fun d b hm =>
    Nat.lt_irrefl _ (h.id_lt hm)
  refine ⟨?_, ?_, ?_, ?_, ?_⟩
  · simp [h.size_actions]
  · simp only [List.map_append, List.map_cons, List.map_nil]
    refine List.Nodup.append h.distinct (List.nodup_singleton c) ?_
    intro d hd hdc
    obtain rfl := List.mem_singleton.mp hdc
    obtain ⟨⟨_, f⟩, hf, rfl⟩ := List.mem_map.mp hd
    exact hfree f hf
  · simp only [List.pairwise_append, List.mem_singleton, forall_eq]
    exact ⟨h.increasing, List.pairwise_singleton _ _, fun e hm => h.id_lt hm⟩
  · intro i d
    simp only [Array.getElem?_push, List.mem_append, List.mem_singleton, Prod.mk.injEq,
      TokenEntry.mk.injEq]
    by_cases hi : i = t.nextId
    · subst hi
      simp only [hnew, false_or]
      simp [nextId, eq_comm]
    · simp [hi, show i ≠ t.symbols.size from hi, h.symbol_iff]
  · intro i b
    simp only [Array.getElem?_push, List.mem_append, List.mem_singleton, Prod.mk.injEq,
      TokenEntry.mk.injEq, h.size_actions]
    by_cases hi : i = t.nextId
    · subst hi
      simp only [hnew, false_or]
      simp [nextId, eq_comm]
    · simp [hi, show i ≠ t.symbols.size from hi, h.action_iff]

theorem insert (h : t.Consistent) (c : Char) (a : Action) : (t.insert c a).Consistent :=
  (h.erase c).append (find?_erase_self t c) a

theorem register (h : t.Consistent) (symbol : Value) (action : Offer Action) :
    (t.register symbol action).state.Consistent := by
  rcases t.register_cases symbol action with ⟨c, a, -, -, hok⟩ | ⟨e, -, hfail⟩
  · rw [hok]
    exact h.insert c a
  · rw [hfail]
    exact h

theorem remove (h : t.Consistent) (symbol : Value) : (t.remove symbol).state.Consistent := by
  rcases t.state_remove symbol with hsame | ⟨c, herased⟩
  · rw [hsame]
    exact h
  · rw [herased]
    exact h.erase c

theorem registerAll (h : t.Consistent) (declarations : List Declaration) :
    (t.registerAll declarations).state.Consistent := by
  induction declarations generalizing t with
  | nil => exact h
  | cons d rest ih =>
    have hr := h.register d.symbol d.action
    simp only [TokenTable.registerAll]
    split
    · rename_i t' _ heq
      rw [heq] at hr
      exact ih hr
    · rename_i t' _ heq
      rw [heq] at hr
      exact hr

theorem reset (declarations : List Declaration) :
    (TokenTable.reset declarations).state.Consistent :=
  consistent_empty.registerAll declarations

end Consistent

end TokenTable

end LSystem
