import LSystem.Proofs.Token.Declared

namespace LSystem

theorem Draft.setTokens_declare (d : Draft) (tokens : List (Char × Action)) :
    d.setTokens (declare tokens) = .ok (.ofTokens (.listed tokens)) () := by
  rw [setTokens, TokenTable.reset_declare]
  rfl

namespace Grammar

open TokenTable

theorem compile_eq (tokens : List (Char × Action)) (start : String) (texts : List String) :
    compile (declare tokens) start (.list (texts.map .text))
      = (Rule.readAll (listed tokens).knows 0 texts).map fun rules =>
          (Draft.spelled (listed tokens) (start.toList.filter (listed tokens).knows)
            (Rule.addAll [] rules)).build := by
  have hmembers : (texts.map Value.text).map Value.toText = texts := by
    rw [List.map_map]
    exact List.map_id texts
  have hset : ((Draft.empty.setTokens (declare tokens)).result : Except EditError Draft)
      = .ok (.ofTokens (.listed tokens)) := by
    rw [Draft.setTokens_declare]
    rfl
  have hrules := Draft.setRules_result (d := (Draft.ofTokens (listed tokens)).setStart start)
    (consistent_listed tokens) (compileText_eq _ _) texts
  rw [compile, hset]
  change (((Draft.ofTokens (listed tokens)).setStart start).setRules
    ((texts.map Value.text).map Value.toText)).result.bind _ = _
  rw [hmembers, hrules]
  change (Except.map _ (Rule.readAll (listed tokens).knows 0 texts)).bind _ = _
  cases Rule.readAll (listed tokens).knows 0 texts <;> rfl

theorem expandText_compile (tokens : List (Char × Action)) (start : String) (texts : List String)
    (n : Nat) {g : Grammar}
    (h : compile (declare tokens) start (.list (texts.map .text)) = .ok g) :
    g.expandText n none
        = .ok (String.ofList ((Rule.substituteAll texts)^[n]
            (start.toList.filter fun c => c ∈ tokens.map Prod.fst)))
      ∧ ∀ c ∈ (Rule.substituteAll texts)^[n] (start.toList.filter fun c => c ∈ tokens.map Prod.fst),
        c ∈ tokens.map Prod.fst := by
  have ht := consistent_listed tokens
  have hstart : start.toList.filter (listed tokens).knows
      = start.toList.filter fun c => c ∈ tokens.map Prod.fst :=
    List.filter_congr fun c _ => Bool.eq_iff_iff.mpr (by rw [knows_listed, decide_eq_true_iff])
  have hknown : ∀ c ∈ start.toList.filter fun c => c ∈ tokens.map Prod.fst,
      (listed tokens).knows c = true := by
    intro c hc
    rw [knows_listed]
    simpa using (List.mem_filter.mp hc).2
  rw [compile_eq, hstart] at h
  cases hread : Rule.readAll (listed tokens).knows 0 texts with
  | error e =>
    rw [hread] at h
    cases h
  | ok rules =>
    rw [hread] at h
    obtain rfl := Except.ok.inj h
    have hp := Rule.within_of_readAll hread
    have hgrow := Productions.grow_none (Rule.addAll [] rules) 1 n
      (start.toList.filter fun c => c ∈ tokens.map Prod.fst)
    rw [Rule.rewrite_addAll hread] at hgrow
    have hall := hp.grow hknown hgrow
    constructor
    · rw [expandText, Draft.expand_spelled ht hp hknown, hgrow]
      exact congrArg Except.ok (Draft.decode_build (d := Draft.spelled _ _ _) ht hall)
    · exact fun c hc => (knows_listed tokens c).mp (hall c hc)

theorem expandText_compile_three :
    ∃ g, compile (declare [('A', .forward), ('B', .nothing), ('=', .push), (' ', .pop),
          ('A', .nothing)]) "A xB= ?" (.list (["A=B", " A = AB ", "B==A"].map .text)) = .ok g
      ∧ g.expandText 3 none = .ok "AB=A=AB =AB=A= " := by
  obtain ⟨g, hg⟩ : ∃ g, compile (declare [('A', .forward), ('B', .nothing), ('=', .push),
      (' ', .pop), ('A', .nothing)]) "A xB= ?" (.list (["A=B", " A = AB ", "B==A"].map .text))
        = .ok g := ⟨_, rfl⟩
  refine ⟨g, hg, (expandText_compile _ _ _ 3 hg).1.trans (congrArg Except.ok ?_)⟩
  apply String.toList_inj.mp
  rw [String.toList_ofList]
  decide

end Grammar

end LSystem
