import LSystem.Proofs.Token.Declared
import Mathlib.Data.List.Find

namespace LSystem

namespace Rule

variable {known : Char → Bool} {text : String} {cause : RuleError}

def Accepted (known : Char → Bool) (text : String) : Prop :=
  ∃ rule, parse text = .ok rule ∧ ∀ c ∈ rule.symbol :: rule.replacement, known c = true

def Refused (known : Char → Bool) (text : String) (cause : RuleError) : Prop :=
  (∃ fault, parse text = .error fault ∧ cause = .malformed text fault) ∨
    ∃ rule c, parse text = .ok rule ∧
      (rule.symbol :: rule.replacement).find? (fun c => !known c) = some c ∧ cause = .unknown c

theorem accepted_iff : Accepted known text ↔ ∃ rule, read known text = .ok rule := by
  constructor
  · rintro ⟨rule, hparse, hknown⟩
    obtain ⟨hsymbol, hreplacement⟩ := List.forall_mem_cons.mp hknown
    exact ⟨rule, read_eq_ok_iff.mpr ⟨hparse, hsymbol, hreplacement⟩⟩
  · rintro ⟨rule, hread⟩
    obtain ⟨hparse, hsymbol, hreplacement⟩ := read_eq_ok_iff.mp hread
    exact ⟨rule, hparse, List.forall_mem_cons.mpr ⟨hsymbol, hreplacement⟩⟩

theorem refused_iff : Refused known text cause ↔ read known text = .error cause := by
  unfold Refused read
  cases parse text with
  | error fault =>
    constructor
    · rintro (⟨_, h, rfl⟩ | ⟨_, _, h, -, -⟩)
      · cases h
        rfl
      · cases h
    · intro h
      cases h
      exact Or.inl ⟨fault, rfl, rfl⟩
  | ok rule =>
    dsimp only
    cases hfind : (rule.symbol :: rule.replacement).find? fun c => !known c with
    | none =>
      constructor
      · rintro (⟨_, h, -⟩ | ⟨_, _, h, hc, -⟩)
        · cases h
        · cases h
          cases hfind.symm.trans hc
      · exact nofun
    | some c =>
      constructor
      · rintro (⟨_, h, -⟩ | ⟨_, _, h, hc, rfl⟩)
        · cases h
        · cases h
          cases hfind.symm.trans hc
          rfl
      · intro h
        cases h
        exact Or.inr ⟨rule, c, rfl, hfind, rfl⟩

theorem not_accepted (h : Refused known text cause) : ¬Accepted known text := by
  intro haccepted
  obtain ⟨rule, hread⟩ := accepted_iff.mp haccepted
  cases hread.symm.trans (refused_iff.mp h)

theorem accepted_or_exists_first (known : Char → Bool) (texts : List String) :
    (∀ text ∈ texts, Accepted known text) ∨
      ∃ before text after cause, texts = before ++ text :: after ∧
        (∀ b ∈ before, Accepted known b) ∧ Refused known text cause := by
  induction texts with
  | nil => exact Or.inl (by simp)
  | cons text rest ih =>
    cases hread : read known text with
    | error cause => exact Or.inr ⟨[], text, rest, cause, rfl, by simp, refused_iff.mpr hread⟩
    | ok rule =>
      have haccepted := accepted_iff.mpr ⟨rule, hread⟩
      rcases ih with hall | ⟨before, bad, after, cause, rfl, hbefore, hbad⟩
      · exact Or.inl (List.forall_mem_cons.mpr ⟨haccepted, hall⟩)
      · exact Or.inr ⟨text :: before, bad, after, cause, rfl,
          List.forall_mem_cons.mpr ⟨haccepted, hbefore⟩, hbad⟩

theorem exists_rules {texts : List String} (h : ∀ text ∈ texts, Accepted known text) :
    ∃ rules, List.Forall₂ (fun text rule => read known text = .ok rule) texts rules := by
  induction texts with
  | nil => exact ⟨[], .nil⟩
  | cons text rest ih =>
    obtain ⟨htext, hrest⟩ := List.forall_mem_cons.mp h
    obtain ⟨rule, hread⟩ := accepted_iff.mp htext
    obtain ⟨rules, hrules⟩ := ih hrest
    exact ⟨rule :: rules, .cons hread hrules⟩

end Rule

namespace Draft

open TokenTable

def entryOf (t : TokenTable) (rule : Rule) : Nat × List Nat :=
  (t.idOf rule.symbol, rule.replacement.map t.idOf)

variable {d : Draft} {text : String} {texts : List String} {rules : List Rule} {cause : RuleError}

theorem addRule_of_read {rule : Rule} (h : Rule.read d.tokens.knows text = .ok rule) :
    d.addRule text = .ok { d with rules := d.rules.override [entryOf d.tokens rule] } () := by
  rw [addRule, compileRule_eq, h]
  rfl

theorem addRule_of_refused (h : Rule.Refused d.tokens.knows text cause)
    (rules : Dictionary Nat (List Nat)) :
    ({ d with rules } : Draft).addRule text = .fail { d with rules } cause := by
  rw [addRule, compileRule_eq, Rule.refused_iff.mp h]
  rfl

theorem get?_entries {t : TokenTable} {known : Char → Bool}
    (h : List.Forall₂ (fun text rule => Rule.read known text = .ok rule) texts rules) (id : Nat) :
    Dictionary.get? (rules.map (entryOf t)) id
      = (texts.find? fun text => (Rule.leftSide text).map t.idOf = [id]).map
          fun text => (Rule.rightSide text).map t.idOf := by
  induction h with
  | nil => rfl
  | @cons text rule texts rules hread _ ih =>
    obtain ⟨hleft, hright⟩ := Rule.sides_of_parse (Rule.read_eq_ok_iff.mp hread).1
    rw [List.map_cons, Dictionary.get?_cons, List.find?_cons, ih, hleft]
    by_cases hid : t.idOf rule.symbol = id
    · simp [entryOf, hid, hright]
    · simp [entryOf, hid]

theorem get?_override_entries {t : TokenTable} {known : Char → Bool}
    (h : List.Forall₂ (fun text rule => Rule.read known text = .ok rule) texts rules) (id : Nat) :
    (Dictionary.override [] (rules.map (entryOf t))).get? id
      = (texts.reverse.find? fun text => (Rule.leftSide text).map t.idOf = [id]).map
          fun text => (Rule.rightSide text).map t.idOf := by
  rw [Dictionary.get?_override, ← List.map_reverse, get?_entries (List.forall₂_reverse_iff.mpr h)]
  exact Option.or_none

theorem find?_of_id {t : TokenTable} (ht : t.Consistent)
    (h : ∀ text ∈ texts, Rule.Accepted t.knows text) {c : Char} (hc : t.knows c = true) :
    (texts.find? fun text => (Rule.leftSide text).map t.idOf = [t.idOf c])
      = texts.find? fun text => Rule.leftSide text = [c] := by
  refine List.find?_congr fun text htext => ?_
  obtain ⟨rule, hparse, hknown⟩ := h text htext
  obtain ⟨hleft, -⟩ := Rule.sides_of_parse hparse
  have hid : t.idOf rule.symbol = t.idOf c ↔ rule.symbol = c :=
    ⟨ht.idOf_injective (hknown _ List.mem_cons_self) hc, congrArg t.idOf⟩
  simp [hleft, hid]

section Prefixes

variable (h : List.Forall₂ (fun text rule => Rule.read d.tokens.knows text = .ok rule) texts rules)

include h

theorem addRules_append (place : Nat) (rest : List String) :
    d.addRules place (texts ++ rest)
      = ({ d with rules := d.rules.override (rules.map (entryOf d.tokens)) } : Draft).addRules
          (place + texts.length) rest := by
  -- the rules change with each text, but the table that they are read by does not
  generalize ht : d.tokens = t at h ⊢
  induction h generalizing d place with
  | nil =>
    subst ht
    rfl
  | @cons text rule texts rules hread _ ih =>
    subst ht
    have hplace : place + (text :: texts).length = place + 1 + texts.length := by
      rw [List.length_cons, Nat.add_assoc, Nat.add_comm 1]
    rw [List.cons_append, addRules, addRule_of_read hread, hplace]
    exact ih (place + 1) rfl

theorem setRules_append (rest : List String) :
    d.setRules (texts ++ rest)
      = ({ d with rules := Dictionary.override [] (rules.map (entryOf d.tokens)) } : Draft).addRules
          texts.length rest := by
  have happend := addRules_append (d := { d with rules := [] }) h 0 rest
  rwa [Nat.zero_add] at happend

theorem setRules_of_read :
    d.setRules texts
      = .ok { d with rules := Dictionary.override [] (rules.map (entryOf d.tokens)) } () := by
  have happend := setRules_append h []
  rwa [List.append_nil] at happend

theorem setRules_of_refused (hcause : Rule.Refused d.tokens.knows text cause)
    (after : List String) :
    d.setRules (texts ++ text :: after)
      = .fail { d with rules := Dictionary.override [] (rules.map (entryOf d.tokens)) }
          (.ruleAt texts.length text cause) := by
  rw [setRules_append h, addRules, addRule_of_refused hcause]
  rfl

end Prefixes

theorem setRules_up_to_first_refused (d : Draft) (texts : List String) :
    ((d.setRules texts).answer = .ok () ↔ ∀ text ∈ texts, Rule.Accepted d.tokens.knows text)
      ∧ ((d.setRules texts).answer = .ok () →
          (∀ id, (d.setRules texts).state.rules.get? id
            = (texts.reverse.find? fun text => (Rule.leftSide text).map d.tokens.idOf = [id]).map
                fun text => (Rule.rightSide text).map d.tokens.idOf)
          ∧ (d.tokens.Consistent → ∀ c, d.tokens.knows c = true →
            (d.setRules texts).state.rules.get? (d.tokens.idOf c)
              = (texts.reverse.find? fun text => Rule.leftSide text = [c]).map
                  fun text => (Rule.rightSide text).map d.tokens.idOf))
      ∧ (∀ e, (d.setRules texts).answer = .error e →
          ∃ before text after cause, texts = before ++ text :: after
            ∧ e = .ruleAt before.length text cause
            ∧ (∀ earlier ∈ before, Rule.Accepted d.tokens.knows earlier)
            ∧ Rule.Refused d.tokens.knows text cause
            ∧ (∀ rules, ({ d with rules } : Draft).addRule text = .fail { d with rules } cause)
            ∧ (d.setRules before).answer = .ok ()
            ∧ (d.setRules texts).state = (d.setRules before).state)
      ∧ (d.setRules texts).state.tokens = d.tokens
      ∧ (d.setRules texts).state.start = d.start := by
  rcases Rule.accepted_or_exists_first d.tokens.knows texts with
    hall | ⟨before, text, after, cause, rfl, hbefore, hcause⟩
  · obtain ⟨rules, hrules⟩ := Rule.exists_rules hall
    have hrun := setRules_of_read hrules
    rw [hrun]
    refine ⟨⟨fun _ => hall, fun _ => rfl⟩, fun _ => ⟨?_, ?_⟩, nofun, rfl, rfl⟩
    · exact get?_override_entries hrules
    · intro ht c hc
      have hsymbol := find?_of_id ht (fun text htext => hall text (List.mem_reverse.mp htext)) hc
      rw [← hsymbol]
      exact get?_override_entries hrules _
  · obtain ⟨rules, hrules⟩ := Rule.exists_rules hbefore
    have hrun := setRules_of_refused hrules hcause after
    have hfirst := setRules_of_read hrules
    have hnot : ¬ ∀ t ∈ before ++ text :: after, Rule.Accepted d.tokens.knows t := by
      intro hall
      exact Rule.not_accepted hcause (hall text (by simp))
    rw [hrun]
    refine ⟨⟨nofun, fun hall => absurd hall hnot⟩, nofun, ?_, rfl, rfl⟩
    intro e he
    have hplace := (Except.error.inj he).symm
    refine ⟨before, text, after, cause, rfl, hplace, hbefore, hcause, ?_, ?_, ?_⟩
    · exact addRule_of_refused hcause
    · exact congrArg Outcome.answer hfirst
    · exact (congrArg Outcome.state hfirst).symm

def spiral : Draft :=
  ((ofTokens (listed [('F', .forward), ('X', .nothing)])).addRule "X=XF").state

theorem setRules_up_to_first_refused_spiral :
    spiral.rules.get? 1 = some [1, 0]
      ∧ (spiral.setRules ["F=FX", "F=X"]).answer = .ok ()
      ∧ (spiral.setRules ["F=FX", "F=X"]).state.rules.get? (spiral.tokens.idOf 'F') = some [1]
      ∧ (spiral.setRules ["F=FX", "F=X"]).state.rules.get? 1 = none
      ∧ ∃ before text after cause, ["F=X", "F=Z", "X="] = before ++ text :: after
        ∧ EditError.ruleAt 1 "F=Z" (.unknown 'Z') = .ruleAt before.length text cause
        ∧ (spiral.setRules ["F=X", "F=Z", "X="]).state = (spiral.setRules before).state := by
  have hok : (spiral.setRules ["F=FX", "F=X"]).answer = .ok () := rfl
  have ht : spiral.tokens.Consistent := consistent_listed [('F', .forward), ('X', .nothing)]
  have hF : spiral.tokens.knows 'F' = true := by decide
  obtain ⟨-, hrules, -⟩ := setRules_up_to_first_refused spiral ["F=FX", "F=X"]
  obtain ⟨hid, hsymbol⟩ := hrules hok
  have hfail : (spiral.setRules ["F=X", "F=Z", "X="]).answer
      = .error (.ruleAt 1 "F=Z" (.unknown 'Z')) := rfl
  obtain ⟨-, -, hrefused, -⟩ := setRules_up_to_first_refused spiral ["F=X", "F=Z", "X="]
  obtain ⟨before, text, after, cause, htexts, he, -, -, -, -, hstate⟩ := hrefused _ hfail
  refine ⟨by decide, hok, ?_, ?_, before, text, after, cause, htexts, he, hstate⟩
  · rw [hsymbol ht 'F' hF]
    decide
  · rw [hid]
    decide

end Draft

end LSystem
