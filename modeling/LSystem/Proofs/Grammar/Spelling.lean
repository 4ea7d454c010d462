import LSystem.Proofs.Expansion.Gather
import LSystem.Proofs.Rule.Reading
import LSystem.Proofs.Grammar.Edits

namespace LSystem

namespace TokenTable

def knows (t : TokenTable) (c : Char) : Bool :=
  (t.find? c).isSome

def idOf (t : TokenTable) (c : Char) : Nat :=
  ((t.find? c).map TokenEntry.id).getD t.nextId

def codeOf (t : TokenTable) (c : Char) : Int :=
  Int.ofNat (t.idOf c)

variable {t : TokenTable}

theorem exists_of_knows {c : Char} (h : t.knows c = true) : ∃ e, t.find? c = some e :=
  Option.isSome_iff_exists.mp h

theorem idOf_of_find? {c : Char} {e : TokenEntry} (h : t.find? c = some e) : t.idOf c = e.id := by
  simp [idOf, h]

theorem knows_eq_actionMap (t : TokenTable) (c : Char) :
    t.knows c = (t.actionMap.get? c).isSome := by
  rw [get?_actionMap, Option.isSome_map]
  rfl

namespace Consistent

theorem idOf_injective (h : t.Consistent) {c d : Char} (hc : t.knows c = true)
    (hd : t.knows d = true) (hid : t.idOf c = t.idOf d) : c = d := by
  obtain ⟨e, he⟩ := exists_of_knows hc
  obtain ⟨f, hf⟩ := exists_of_knows hd
  rw [idOf_of_find? he, idOf_of_find? hf] at hid
  exact h.symbol_unique (h.find?_eq_some_iff.mp he) (h.find?_eq_some_iff.mp hf) hid

theorem codeOf_injective (h : t.Consistent) (c d : Char) (hc : t.knows c = true)
    (hd : t.knows d = true) (hid : t.codeOf c = t.codeOf d) : c = d :=
  h.idOf_injective hc hd (Int.ofNat.inj hid)

theorem symbols_idOf (h : t.Consistent) {c : Char} (hc : t.knows c = true) :
    t.symbols[t.idOf c]? = some (some c) := by
  obtain ⟨e, he⟩ := exists_of_knows hc
  rw [idOf_of_find? he]
  exact (h.symbol_iff e.id c).mpr ⟨e.action, h.find?_eq_some_iff.mp he⟩

theorem actionOf_codeOf (h : t.Consistent) {c : Char} (hc : t.knows c = true) :
    t.actionOf (t.codeOf c) = t.actionMap.get? c := by
  obtain ⟨e, he⟩ := exists_of_knows hc
  have hslot : t.actions[e.id]? = some (some e.action) :=
    (h.action_iff e.id e.action).mpr ⟨c, h.find?_eq_some_iff.mp he⟩
  have hmap : t.actionMap.get? c = some e.action := by
    rw [get?_actionMap, he]
    rfl
  simp [actionOf, codeOf, idOf_of_find? he, hslot, hmap]

end Consistent

theorem compileText_eq (t : TokenTable) (cs : List Char) :
    t.compileText cs = (cs.filter t.knows).map t.idOf := by
  induction cs with
  | nil => rfl
  | cons c cs ih =>
    cases hc : t.find? c with
    | none => simpa [compileText, knows, hc] using ih
    | some e => simpa [compileText, knows, hc, idOf] using ih

theorem resolve_eq (t : TokenTable) (c : Char) :
    t.resolve c = if t.knows c then .ok (t.idOf c) else .error (.unknown c) := by
  cases hc : t.find? c <;> simp [resolve, knows, idOf, hc]

theorem mapM_resolve (t : TokenTable) (cs : List Char) :
    cs.mapM t.resolve = match cs.find? fun c => !t.knows c with
      | some c => .error (.unknown c)
      | none => .ok (cs.map t.idOf) := by
  induction cs with
  | nil => rfl
  | cons c cs ih =>
    rw [List.mapM_cons, ih, resolve_eq]
    by_cases hc : t.knows c = true
    · simp only [hc, if_true, List.find?_cons, Bool.not_true]
      cases cs.find? fun c => !t.knows c <;> rfl
    · simp only [hc, Bool.false_eq_true, if_false, List.find?_cons, Bool.not_false]
      rfl

theorem compileRule_eq (t : TokenTable) (text : String) :
    t.compileRule text
      = (Rule.read t.knows text).map fun r => (t.idOf r.symbol, r.replacement.map t.idOf) := by
  rw [compileRule, Rule.read]
  cases Rule.parse text with
  | error fault => rfl
  | ok rule =>
    dsimp only
    rw [mapM_resolve, resolve_eq]
    by_cases hc : t.knows rule.symbol = true
    · simp only [hc, if_true, List.find?_cons, Bool.not_true]
      cases rule.replacement.find? fun c => !t.knows c <;> rfl
    · simp only [hc, Bool.false_eq_true, if_false, List.find?_cons, Bool.not_false]
      rfl

end TokenTable

namespace Draft

open TokenTable

def spelled (t : TokenTable) (cs : List Char) (p : Productions Char) : Draft :=
  ⟨t, cs.map t.idOf, p.rename t.idOf⟩

variable {t : TokenTable} {cs : List Char} {p : Productions Char}

theorem addRules_spelled (ht : t.Consistent) (hp : p.Within fun c => t.knows c = true)
    (place : Nat) (texts : List String) :
    ((spelled t cs p).addRules place texts).result
      = (Rule.readAll t.knows place texts).map fun rules => spelled t cs (Rule.addAll p rules) := by
  induction texts generalizing place p with
  | nil => rfl
  | cons text rest ih =>
    cases hread : Rule.read t.knows text with
    | error e => simp [addRules, addRule, compileRule_eq, Rule.readAll, spelled, hread, Except.map,
        Outcome.fail, Outcome.result]
    | ok rule =>
      obtain ⟨-, hs, hr⟩ := Rule.read_eq_ok_iff.mp hread
      have hput : (p.rename t.idOf).put (t.idOf rule.symbol) (rule.replacement.map t.idOf)
          = Productions.rename t.idOf (p.put rule.symbol rule.replacement) :=
        (Dictionary.rename_put fun e he hid => ht.idOf_injective (hp e he).1 hs hid).symm
      have hadd : (spelled t cs p).addRule text
          = .ok (spelled t cs (p.put rule.symbol rule.replacement)) () := by
        simp [addRule, compileRule_eq, spelled, hread, hput, Except.map]
      have ih := ih (hp.put hs hr) (place + 1)
      simp only [addRules, hadd, Outcome.ok, Rule.readAll, hread, ih]
      cases Rule.readAll t.knows (place + 1) rest <;> rfl

theorem setRules_result {d : Draft} (ht : d.tokens.Consistent) (hd : d.start = cs.map d.tokens.idOf)
    (texts : List String) :
    (d.setRules texts).result
      = (Rule.readAll d.tokens.knows 0 texts).map fun rules =>
          spelled d.tokens cs (Rule.addAll [] rules) := by
  have hclear : { d with rules := [] } = spelled d.tokens cs [] := by
    simp [spelled, hd, Productions.rename, Dictionary.rename]
  rw [setRules, hclear]
  exact addRules_spelled ht (by simp [Productions.Within]) 0 texts

theorem compiled_result (ht : t.Consistent) (start : String) (texts : List String) :
    (compiled t start texts).result
      = (Rule.readAll t.knows 0 texts).map fun rules =>
          spelled t (start.toList.filter t.knows) (Rule.addAll [] rules) :=
  setRules_result (d := (ofTokens t).setStart start) ht (compileText_eq t start.toList) texts

theorem build_nonNegative (d : Draft) : d.build.NonNegative := by
  intro id hid
  simp only [Grammar.occurring, build, List.mem_append, List.mem_map, List.mem_flatMap] at hid
  rcases hid with (⟨n, -, rfl⟩ | ⟨_, ⟨r, -, rfl⟩, rfl⟩) | ⟨_, ⟨r, -, rfl⟩, hid⟩
  · exact Int.natCast_nonneg n
  · exact Int.natCast_nonneg r.1
  · obtain ⟨n, -, rfl⟩ := List.mem_map.mp hid
    exact Int.natCast_nonneg n

theorem start_build_spelled : (spelled t cs p).build.start = cs.map t.codeOf := by
  simp [build, spelled, Function.comp_def, codeOf]

theorem productions_build_spelled :
    (spelled t cs p).build.productions = p.rename t.codeOf := by
  simp [build, spelled, Productions.rename, Dictionary.rename, Function.comp_def, codeOf]

theorem expand_spelled (ht : t.Consistent) (hp : p.Within fun c => t.knows c = true)
    (hcs : ∀ c ∈ cs, t.knows c = true) (iterations : Nat) (limit : Option Int) :
    (spelled t cs p).build.expand iterations limit
      = (p.grow limit 1 iterations cs).map fun xs => (xs.map t.codeOf).toArray := by
  rw [(build_nonNegative _).expand_eq, start_build_spelled, productions_build_spelled,
    Productions.grow_rename ht.codeOf_injective hp limit 1 iterations hcs]
  cases p.grow limit 1 iterations cs <;> rfl

theorem symbolOf_build {d : Draft} (ht : d.tokens.Consistent) {c : Char}
    (hc : d.tokens.knows c = true) : d.build.symbolOf (d.tokens.codeOf c) = c.toString := by
  have hslot := ht.symbols_idOf hc
  have h0 : ¬ d.tokens.codeOf c < 0 := Int.not_lt.mpr (Int.natCast_nonneg _)
  rw [Grammar.symbolOf, if_neg h0]
  simp [build, codeOf, hslot]

theorem decode_build {d : Draft} (ht : d.tokens.Consistent)
    (hcs : ∀ c ∈ cs, d.tokens.knows c = true) :
    d.build.decode (cs.map d.tokens.codeOf) = String.ofList cs := by
  suffices h : ∀ s : String,
      ((cs.map d.tokens.codeOf).foldl (fun s id => s ++ d.build.symbolOf id) s).toList
        = s.toList ++ cs by
    apply String.toList_inj.mp
    simpa [Grammar.decode] using h ""
  induction cs with
  | nil => simp
  | cons c cs ih =>
    intro s
    rw [List.map_cons, List.foldl_cons, ih fun x hx => hcs x (by simp [hx]),
      symbolOf_build ht (hcs c (by simp))]
    simp

end Draft

end LSystem
