import LSystem.Proofs.Expansion.Limit
import LSystem.Proofs.Plant.History

namespace LSystem

open Draft TokenTable

theorem Turtle.interpretIds_of_all {ids : Array Int} (h : ids.all Value.fitsWord = true)
    (r : Resolver) (pen : Pen) : interpretIds r pen ids = .ok (interpret r pen ids) :=
  if_pos h

theorem TokenTable.Consistent.codeOf_lt {t : TokenTable} (h : t.Consistent) {c : Char}
    (hc : t.knows c = true) : t.codeOf c < t.symbols.size := by
  obtain ⟨hlt, -⟩ := Array.getElem?_eq_some_iff.mp (h.symbols_idOf hc)
  exact Int.ofNat_lt.mpr hlt

namespace Plant

variable {p : Plant} {g : Geometry}

theorem spelled_of_rebuild (h : p.draft.tokens.Consistent) (hg : p.rebuild.answer = .ok g) :
    ∃ (cs : List Char) (pen : Pen), (∀ c ∈ cs, p.draft.tokens.knows c = true)
      ∧ p.options.pen = .ok pen ∧ g.sequence = (cs.map p.draft.tokens.codeOf).toArray
      ∧ g.trace = Turtle.interpret p.draft.tokens.actionOf pen g.sequence := by
  rw [answer_rebuild, attempt, compiled_result h] at hg
  obtain ⟨d, hd, hg⟩ := exists_of_mapError_bind_eq_ok hg
  obtain ⟨rules, hread, rfl⟩ := exists_of_map_eq_ok hd
  obtain ⟨ids, pen, hids, hpen, rfl⟩ := render_eq_ok_iff.mp hg
  obtain ⟨limit, -, hids⟩ := exists_of_mapError_bind_eq_ok hids
  have hexpand := eq_ok_of_mapError_eq_ok hids
  have hwithin := Rule.within_of_readAll hread
  have hstart : ∀ c ∈ p.options.start.toList.filter p.draft.tokens.knows,
      p.draft.tokens.knows c = true := fun c hc => (List.mem_filter.mp hc).2
  rw [expand_spelled h hwithin hstart] at hexpand
  obtain ⟨cs, hgrow, hsequence⟩ := exists_of_map_eq_ok hexpand
  exact ⟨cs, pen, hwithin.grow hstart hgrow, hpen, hsequence.symm, rfl⟩

theorem fitsWord_of_rebuild (h : p.draft.tokens.Consistent) (hg : p.rebuild.answer = .ok g)
    (hsize : p.draft.tokens.symbols.size ≤ Value.halfWord) :
    g.sequence.all Value.fitsWord = true := by
  obtain ⟨cs, -, hcs, -, hsequence, -⟩ := spelled_of_rebuild h hg
  rw [hsequence]
  refine Array.all_eq_true_iff_forall_mem.mpr fun id hid => ?_
  obtain ⟨c, hc, rfl⟩ := List.mem_map.mp (List.mem_toArray.mp hid)
  have hlt := h.codeOf_lt (hcs c hc)
  have hpos : 0 ≤ p.draft.tokens.codeOf c := Int.natCast_nonneg _
  simp only [Value.fitsWord, Bool.and_eq_true, decide_eq_true_eq]
  omega

theorem interpretIds_of_rebuild (h : p.draft.tokens.Consistent) (hg : p.rebuild.answer = .ok g)
    (hsize : p.draft.tokens.symbols.size ≤ Value.halfWord) :
    ∃ pen, p.options.pen = .ok pen
      ∧ Turtle.interpretIds p.draft.tokens.actionOf pen g.sequence = .ok g.trace := by
  obtain ⟨cs, pen, hcs, hpen, -, htrace⟩ := spelled_of_rebuild h hg
  refine ⟨pen, hpen, ?_⟩
  rw [Turtle.interpretIds_of_all (fitsWord_of_rebuild h hg hsize), htrace]

end Plant

theorem Grammar.NonNegative.interpretIds_of_expandWith {grammar : Grammar}
    (h : grammar.NonNegative) {room n : Nat} {limit : Option Int} {ids : Array Int}
    (hids : expandWith room grammar (.int n) ((limit.map Value.int).getD .null) = .ok ids)
    (r : Resolver) (pen : Pen) : Turtle.interpretIds r pen ids = .ok (Turtle.interpret r pen ids) :=
  Turtle.interpretIds_of_all (h.fitsWord_of_expandWith hids) r pen

end LSystem
