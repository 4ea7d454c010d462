import LSystem.Proofs.Grammar.Edits
import LSystem.Proofs.Token.Renaming

namespace LSystem.Draft

open TokenTable

inductive Reachable : Draft → Prop
  | new (declarations : List Declaration) (commands : List TokenTable.Command) :
      Reachable (ofTokens (reached declarations commands))
  | perform {d : Draft} (h : Reachable d) (c : Command) : Reachable (d.perform c).state
  | edit {d : Draft} (h : Reachable d) (c : TokenTable.Command) :
      Reachable { d with tokens := d.tokens.perform c }

/-- A draft comes from an earlier one, and no other table was set in between. -/
inductive LeadsTo (earlier : Draft) : Draft → Prop
  | refl : earlier.LeadsTo earlier
  | perform {d : Draft} (h : earlier.LeadsTo d) {c : Command}
      (hc : ∀ declarations, c ≠ .setTokens declarations) : earlier.LeadsTo (d.perform c).state
  | call {d : Draft} (h : earlier.LeadsTo d) (c : Call) :
      earlier.LeadsTo { d with tokens := (d.tokens.call c).state }

variable {d earlier : Draft} {former symbol : Value} {p n : Char} {e : TokenEntry}

theorem Reachable.consistent (h : d.Reachable) : d.tokens.Consistent := by
  induction h with
  | new declarations commands => exact consistent_reached declarations commands
  | perform _ c ih => exact consistent_perform ih c
  | edit _ c ih => exact ih.perform c

theorem LeadsTo.continues (hd : earlier.tokens.Consistent) (h : earlier.LeadsTo d) :
    d.tokens.Consistent ∧ earlier.tokens.Continues d.tokens := by
  induction h with
  | refl => exact ⟨hd, .refl earlier.tokens⟩
  | perform _ hc ih =>
    refine tokens_perform_induct (P := fun t => t.Consistent ∧ earlier.tokens.Continues t)
      (fun t c ht => ?_) (fun t c a ht => ?_) ih hc
    · exact ⟨ht.1.erase c, ht.2.trans (continues_erase t c)⟩
    · exact ⟨ht.1.insert c a, ht.2.trans (ht.1.continues_insert c a)⟩
  | call _ c ih => exact ⟨ih.1.call c, ih.2.trans (ih.1.continues_call c)⟩

theorem changeToken_of_get_eq_none (h : d.tokens.get former = .ok none) (symbol : Value) :
    d.changeToken former symbol = .ok d false := by
  simp only [changeToken, h]

theorem changeToken_of_find? (hp : former.symbol? = some p) (hn : symbol.symbol? = some n)
    (he : d.tokens.find? p = some e) :
    d.changeToken former symbol
      = .ok { d with tokens := d.tokens.rename p n e.action } true := by
  have hget : d.tokens.get former = .ok (some e) := by
    rw [d.tokens.get_of_symbol? hp, he]
  have hregister : d.tokens.register symbol (.proper e.action)
      = .ok (d.tokens.insert n e.action) d.tokens.nextId := by
    simp only [register, hn]
  have hremove : ∀ t : TokenTable, (t.remove former).state = t.erase p :=
    fun t => congrArg Outcome.state (t.remove_of_symbol? hp)
  simp only [changeToken, hget, hregister, Outcome.ok, hremove, hp, hn, Option.some.injEq]
  rfl

theorem changeToken_renames (hd : d.Reachable) (former symbol : Value) :
    (d.tokens.get former = .ok none → d.changeToken former symbol = .ok d false)
      ∧ (former.isKey = false →
          d.changeToken former symbol = .fail d (.token (.unhashable former)))
      ∧ ∀ p n e, former.symbol? = some p → symbol.symbol? = some n → d.tokens.find? p = some e →
        ∃ u, d.changeToken former symbol = .ok { d with tokens := u } true
          ∧ Renamed p n e.action d.tokens u
          ∧ (∀ earlier : Draft, earlier.Reachable → earlier.LeadsTo d → ∀ i : Nat,
              earlier.tokens.symbolOf i = some p ∨ earlier.tokens.symbolOf i = some n →
              u.symbolOf i = none ∧ u.actionOf i = none)
          ∧ (d.tokens.find? n = none →
              ∃ v, changeToken { d with tokens := u } symbol former
                  = .ok { d with tokens := v } true
                ∧ ∀ c, v.actionMap.get? c = d.tokens.actionMap.get? c) := by
  refine ⟨fun h => changeToken_of_get_eq_none h symbol, fun h => ?_, ?_⟩
  · simp only [changeToken, d.tokens.get_of_not_isKey h]
  intro p n e hp hn he
  have ht := hd.consistent
  have hrenamed := ht.renamed p n e.action
  refine ⟨d.tokens.rename p n e.action, changeToken_of_find? hp hn he, hrenamed, ?_, ?_⟩
  · intro earlier hearlier hleads i hi
    obtain ⟨-, hcontinues⟩ := hleads.continues hearlier.consistent
    exact hrenamed.vacant_of_continues hcontinues hi
  · intro hunused
    have hback := changeToken_of_find? (d := { d with tokens := d.tokens.rename p n e.action }) hn
      hp hrenamed.registered
    have hrenamed' := (ht.rename p n e.action).renamed n p e.action
    exact ⟨_, hback, hrenamed.get?_actionMap_back he hunused hrenamed'⟩

def sprout : Draft :=
  let d := ofTokens (reached [.of 'F' .forward, .of 'X' .nothing, .of 'Y' .push]
    [.call (.register (.text "F") (.proper .forward))])
  ((d.setStart "FX").addRule "X=FY").state

theorem reachable_sprout : sprout.Reachable :=
  ((Reachable.new [.of 'F' .forward, .of 'X' .nothing, .of 'Y' .push]
    [.call (.register (.text "F") (.proper .forward))]).perform (.setStart (.text "FX"))).perform
      (.addRule (.text "X=FY"))

theorem changeToken_renames_sprout :
    sprout.changeToken (.text "Z") (.text "") = .ok sprout false
      ∧ (∃ u, sprout.changeToken (.text "F") (.text "X") = .ok { sprout with tokens := u } true
        ∧ u.entries = [('Y', ⟨2, .push⟩), ('X', ⟨4, .forward⟩)]
        ∧ u.symbolOf 3 = none ∧ u.symbolOf 1 = none ∧ u.symbolOf 4 = some 'X')
      ∧ ∃ u v, sprout.changeToken (.text "F") (.text "G") = .ok { sprout with tokens := u } true
        ∧ changeToken { sprout with tokens := u } (.text "G") (.text "F")
          = .ok { sprout with tokens := v } true
        ∧ ∀ c, v.actionMap.get? c = sprout.tokens.actionMap.get? c := by
  have hF : sprout.tokens.find? 'F' = some ⟨3, .forward⟩ := rfl
  refine ⟨(changeToken_renames reachable_sprout (.text "Z") (.text "")).1 rfl, ?_, ?_⟩
  · obtain ⟨-, -, h⟩ := changeToken_renames reachable_sprout (.text "F") (.text "X")
    obtain ⟨u, hu, hrenamed, hearlier, -⟩ := h 'F' 'X' _ rfl rfl hF
    refine ⟨u, hu, hrenamed.entries, ?_, ?_, hrenamed.newest.1⟩
    · exact (hearlier sprout reachable_sprout .refl 3 (Or.inl rfl)).1
    · exact (hrenamed.retired 1 (Or.inr rfl)).1
  · obtain ⟨-, -, h⟩ := changeToken_renames reachable_sprout (.text "F") (.text "G")
    obtain ⟨u, hu, -, -, hback⟩ := h 'F' 'G' _ rfl rfl hF
    obtain ⟨v, hv, hmap⟩ := hback rfl
    exact ⟨u, v, hu, hv, hmap⟩

end LSystem.Draft
