import LSystem.Proofs.Token.Lifetime

namespace LSystem.TokenTable

def rename (t : TokenTable) (former symbol : Char) (a : Action) : TokenTable :=
  if symbol = former then t.insert symbol a else (t.insert symbol a).erase former

structure Renamed (former symbol : Char) (a : Action) (t u : TokenTable) : Prop where
  entries : u.entries = (t.entries.filter fun e => e.1 ≠ former ∧ e.1 ≠ symbol)
    ++ [(symbol, ⟨t.nextId, a⟩)]
  registered : u.find? symbol = some ⟨t.nextId, a⟩
  unregistered : symbol ≠ former → u.find? former = none
  others : ∀ c, c ≠ former → c ≠ symbol → u.find? c = t.find? c
  size_symbols : u.symbols.size = t.symbols.size + 1
  retired : ∀ i : Nat, t.symbolOf i = some former ∨ t.symbolOf i = some symbol →
    u.symbolOf i = none ∧ u.actionOf i = none
  kept : ∀ i : Nat, i < t.nextId → t.symbolOf i ≠ some former → t.symbolOf i ≠ some symbol →
    u.symbolOf i = t.symbolOf i ∧ u.actionOf i = t.actionOf i
  newest : u.symbolOf t.nextId = some symbol ∧ u.actionOf t.nextId = some a

variable {t u v : TokenTable} {former symbol : Char} {a : Action}

theorem entries_insert (t : TokenTable) (c : Char) (a : Action) :
    (t.insert c a).entries = t.entries.erase c ++ [(c, ⟨t.nextId, a⟩)] := by
  simp [insert]

theorem entries_rename (t : TokenTable) (former symbol : Char) (a : Action) :
    (t.rename former symbol a).entries
      = (t.entries.filter fun e => e.1 ≠ former ∧ e.1 ≠ symbol) ++ [(symbol, ⟨t.nextId, a⟩)] := by
  unfold rename
  split
  · next h =>
    subst h
    rw [entries_insert]
    simp [Dictionary.erase]
  · next h =>
    rw [entries_erase, entries_insert]
    simp [Dictionary.erase, List.filter_append, List.filter_filter, h]

theorem find?_rename_of_ne (t : TokenTable) (a : Action) {c : Char} (hf : c ≠ former)
    (hs : c ≠ symbol) : (t.rename former symbol a).find? c = t.find? c := by
  unfold rename
  split
  · rw [find?_insert_of_ne t a hs]
  · rw [find?_erase_of_ne _ hf, find?_insert_of_ne t a hs]

theorem find?_rename_self (t : TokenTable) (former symbol : Char) (a : Action) :
    (t.rename former symbol a).find? symbol = some ⟨t.nextId, a⟩ := by
  unfold rename
  split
  · exact find?_insert_self t symbol a
  · next h => rw [find?_erase_of_ne _ h, find?_insert_self]

theorem nextId_rename (t : TokenTable) (former symbol : Char) (a : Action) :
    (t.rename former symbol a).nextId = t.nextId + 1 := by
  unfold rename
  split
  · exact nextId_insert t symbol a
  · rw [nextId_erase, nextId_insert]

theorem mem_entries_rename {c : Char} {e : TokenEntry} (hid : e.id ≠ t.nextId) :
    (c, e) ∈ (t.rename former symbol a).entries ↔
      (c, e) ∈ t.entries ∧ c ≠ former ∧ c ≠ symbol := by
  have hold : (c, e) ≠ (symbol, ⟨t.nextId, a⟩) := by
    rintro h
    exact hid (congrArg (fun x => x.2.id) h)
  simp [entries_rename, hold]

namespace Consistent

theorem rename (h : t.Consistent) (former symbol : Char) (a : Action) :
    (t.rename former symbol a).Consistent := by
  unfold TokenTable.rename
  split
  · exact h.insert symbol a
  · exact (h.insert symbol a).erase former

theorem slot_congr (ht : t.Consistent) (hu : u.Consistent) {i : Nat}
    (h : ∀ c e, e.id = i → ((c, e) ∈ u.entries ↔ (c, e) ∈ t.entries)) :
    u.symbolOf i = t.symbolOf i ∧ u.actionOf i = t.actionOf i := by
  constructor
  · ext c
    simp only [hu.symbolOf_eq_some_iff, ht.symbolOf_eq_some_iff, Int.ofNat_inj]
    exact exists_congr fun e => and_congr_left (h c e)
  · ext a
    simp only [hu.actionOf_eq_some_iff, ht.actionOf_eq_some_iff, Int.ofNat_inj]
    exact exists_congr fun c => exists_congr fun e => and_congr_left fun he => h c e he.1

theorem slot_eq_none (ht : t.Consistent) {i : Nat} (h : ∀ c e, (c, e) ∈ t.entries → e.id ≠ i) :
    t.symbolOf i = none ∧ t.actionOf i = none := by
  constructor
  · rw [Option.eq_none_iff_forall_ne_some]
    intro c hc
    obtain ⟨e, he, hid⟩ := (ht.symbolOf_eq_some_iff i c).mp hc
    exact h c e he (Int.ofNat.inj hid)
  · rw [Option.eq_none_iff_forall_ne_some]
    intro a ha
    obtain ⟨c, e, he, hid, -⟩ := (ht.actionOf_eq_some_iff i a).mp ha
    exact h c e he (Int.ofNat.inj hid)

theorem slot_rename_eq_none (h : t.Consistent) {c : Char} (hc : c = former ∨ c = symbol) {i : Nat}
    (hi : t.symbolOf i = some c) :
    (t.rename former symbol a).symbolOf i = none
      ∧ (t.rename former symbol a).actionOf i = none := by
  obtain ⟨e, he, hid⟩ := (h.symbolOf_eq_some_iff i c).mp hi
  obtain rfl := Int.ofNat.inj hid
  refine (h.rename former symbol a).slot_eq_none ?_
  intro d f hf hsame
  have hlt : f.id ≠ t.nextId := Nat.ne_of_lt (hsame ▸ h.id_lt he)
  obtain ⟨hold, hformer, hsymbol⟩ := (mem_entries_rename hlt).mp hf
  -- the id is that of `c` alone, which is one of the two that are gone
  obtain rfl := h.symbol_unique hold he hsame
  exact hc.elim hformer hsymbol

theorem slot_rename_eq (h : t.Consistent) {i : Nat} (hi : i < t.nextId)
    (hformer : t.symbolOf i ≠ some former) (hsymbol : t.symbolOf i ≠ some symbol) :
    (t.rename former symbol a).symbolOf i = t.symbolOf i
      ∧ (t.rename former symbol a).actionOf i = t.actionOf i := by
  refine h.slot_congr (h.rename former symbol a) ?_
  rintro c e rfl
  rw [mem_entries_rename (Nat.ne_of_lt hi), and_iff_left_iff_imp]
  intro he
  have hc : t.symbolOf e.id = some c := (h.symbolOf_eq_some_iff e.id c).mpr ⟨e, he, rfl⟩
  exact ⟨fun heq => hformer (heq ▸ hc), fun heq => hsymbol (heq ▸ hc)⟩

theorem renamed (h : t.Consistent) (former symbol : Char) (a : Action) :
    Renamed former symbol a t (t.rename former symbol a) where
  entries := entries_rename t former symbol a
  registered := find?_rename_self t former symbol a
  unregistered hne := by
    rw [TokenTable.rename, if_neg hne]
    exact find?_erase_self _ former
  others c hformer hsymbol := find?_rename_of_ne t a hformer hsymbol
  size_symbols := nextId_rename t former symbol a
  retired i hi := hi.elim (h.slot_rename_eq_none (Or.inl rfl)) (h.slot_rename_eq_none (Or.inr rfl))
  kept i := h.slot_rename_eq
  newest := by
    have hu := h.rename former symbol a
    have hmem := hu.find?_eq_some_iff.mp (find?_rename_self t former symbol a)
    exact ⟨(hu.symbolOf_eq_some_iff _ symbol).mpr ⟨_, hmem, rfl⟩,
      (hu.actionOf_eq_some_iff _ a).mpr ⟨symbol, _, hmem, rfl, rfl⟩⟩

end Consistent

theorem Renamed.vacant_of_continues (h : Renamed former symbol a t u) (hst : v.Continues t)
    {i : Nat} (hi : v.symbolOf i = some former ∨ v.symbolOf i = some symbol) :
    u.symbolOf i = none ∧ u.actionOf i = none := by
  have hlt : i < v.nextId := by
    rcases hi with hi | hi
    all_goals
      obtain ⟨n, hn, heq⟩ := exists_of_symbolOf hi
      exact Int.ofNat.inj heq ▸ hn
  rcases hst.slot i hlt with ⟨hsame, -⟩ | ⟨hsymbol, haction⟩
  · exact h.retired i (hsame ▸ hi)
  · have hnext := Nat.lt_of_lt_of_le hlt hst.nextId_le
    obtain ⟨hsymbol', haction'⟩ := h.kept i hnext (by simp [hsymbol]) (by simp [hsymbol])
    exact ⟨hsymbol'.trans hsymbol, haction'.trans haction⟩

theorem Renamed.get?_actionMap_back {e : TokenEntry} (he : t.find? former = some e)
    (hunused : t.find? symbol = none) (h : Renamed former symbol e.action t u)
    (hback : Renamed symbol former e.action u v) (c : Char) :
    v.actionMap.get? c = t.actionMap.get? c := by
  have hne : former ≠ symbol := by
    rintro rfl
    cases hunused.symm.trans he
  rw [get?_actionMap, get?_actionMap]
  by_cases hformer : c = former
  · subst hformer
    rw [hback.registered, he]
    rfl
  · by_cases hsymbol : c = symbol
    · subst hsymbol
      rw [hback.unregistered hne, hunused]
    · rw [hback.others c hsymbol hformer, h.others c hformer hsymbol]

end LSystem.TokenTable
