import LSystem.Proofs.Rule.Written
import LSystem.Proofs.Text.Lines
import LSystem.Proofs.Token.Declared

namespace LSystem

open Text

def Outcome.mapError {σ ε ε' α : Type} (f : ε → ε') (o : Outcome σ ε α) : Outcome σ ε' α :=
  ⟨o.state, o.answer.mapError f⟩

def RuleError.stripped : RuleError → RuleError
  | .malformed text fault => .malformed (strip text) fault
  | .unknown symbol => .unknown symbol

def EditError.stripped : EditError → EditError
  | .ruleAt place text cause => .ruleAt place (strip text) cause.stripped
  | e => e

theorem Rule.read_strip (known : Char → Bool) (text : String) :
    read known (strip text) = (read known text).mapError RuleError.stripped := by
  unfold read
  rw [parse_strip]
  cases parse text with
  | error fault => rfl
  | ok rule =>
    dsimp only
    cases (rule.symbol :: rule.replacement).find? fun c => !known c <;> rfl

namespace Draft

def Idle (line : String) : Prop :=
  Blank line.toList ∨ ∃ rest, trim line.toList = '#' :: rest

/-- Texts that stand on a line each, in order and with blanks around them, idle lines between. -/
inductive LaidOut : List String → List String → Prop
  | nil : LaidOut [] []
  | idle {line : String} {texts lines : List String} (hline : OneLine line.toList)
      (hidle : Idle line) (hrest : LaidOut texts lines) : LaidOut texts (line :: lines)
  | text (before text after : String) {texts lines : List String}
      (hbefore : Blank before.toList ∧ OneLine before.toList)
      (hafter : Blank after.toList ∧ OneLine after.toList) (hrest : LaidOut texts lines) :
      LaidOut (text :: texts) ((before ++ text ++ after) :: lines)

variable {texts lines : List String}

def holdsRule (line : List Char) : Bool :=
  line.head?.any (· ≠ '#')

theorem holdsRule_trim_eq_false_iff {line : String} :
    holdsRule (trim line.toList) = false ↔ Idle line := by
  unfold Idle
  rw [← trim_eq_nil_iff]
  cases trim line.toList with
  | nil => simp [holdsRule]
  | cons c rest => simp [holdsRule]

instance (line : String) : Decidable (Idle line) :=
  decidable_of_iff _ holdsRule_trim_eq_false_iff

theorem LaidOut.oneLine (h : LaidOut texts lines) (htexts : ∀ text ∈ texts, OneLine text.toList) :
    ∀ line ∈ lines, OneLine line.toList := by
  induction h with
  | nil => simp
  | idle hline _ _ ih => exact List.forall_mem_cons.mpr ⟨hline, ih htexts⟩
  | text _ _ _ hbefore hafter _ ih =>
    obtain ⟨htext, hrest⟩ := List.forall_mem_cons.mp htexts
    refine List.forall_mem_cons.mpr ⟨?_, ih hrest⟩
    simp only [String.toList_append, oneLine_append]
    exact ⟨⟨hbefore.2, htext⟩, hafter.2⟩

theorem LaidOut.filter_holdsRule (h : LaidOut texts lines) (htexts : ∀ text ∈ texts, ¬Idle text) :
    (lines.map fun line => trim line.toList).filter holdsRule
      = texts.map fun text => trim text.toList := by
  induction h with
  | nil => rfl
  | idle _ hidle _ ih =>
    rw [List.map_cons, List.filter_cons_of_neg, ih htexts]
    simp [holdsRule_trim_eq_false_iff.mpr hidle]
  | text before text after hbefore hafter _ ih =>
    obtain ⟨htext, hrest⟩ := List.forall_mem_cons.mp htexts
    have hpad : trim (before ++ text ++ after).toList = trim text.toList := by
      rw [String.toList_append, String.toList_append, trim_pad hbefore.1 hafter.1]
    have hholds : holdsRule (trim text.toList) = true := by
      rwa [← holdsRule_trim_eq_false_iff, Bool.not_eq_false] at htext
    rw [List.map_cons, hpad, List.filter_cons_of_pos hholds, ih hrest, List.map_cons]

theorem rulesOfText_intercalate {ls : List (List Char)} (h : ∀ l ∈ ls, OneLine l) :
    rulesOfText (['\n'].intercalate ls) = (ls.map trim).filter holdsRule := by
  change ((Text.lines (['\n'].intercalate ls)).map trim).filter holdsRule = _
  rw [List.filter_map, List.filter_map, filter_lines_intercalate rfl h]

theorem LaidOut.rulesOfText_eq (h : LaidOut texts lines)
    (htexts : ∀ text ∈ texts, OneLine text.toList ∧ ¬Idle text) :
    (rulesOfText ("\n".intercalate lines).toList).map String.ofList = texts.map strip := by
  have hlines : ∀ l ∈ lines.map String.toList, OneLine l :=
    List.forall_mem_map.mpr (h.oneLine fun text ht => (htexts text ht).1)
  have hjoined : ("\n".intercalate lines).toList = ['\n'].intercalate (lines.map String.toList) :=
    String.toList_intercalate
  rw [hjoined, rulesOfText_intercalate hlines, List.map_map]
  change ((lines.map fun line => trim line.toList).filter holdsRule).map String.ofList = _
  rw [h.filter_holdsRule fun text ht => (htexts text ht).2, List.map_map]
  rfl

theorem addRule_strip (d : Draft) (text : String) :
    d.addRule (strip text) = (d.addRule text).mapError RuleError.stripped := by
  rw [addRule, addRule, TokenTable.compileRule_eq, TokenTable.compileRule_eq, Rule.read_strip]
  cases Rule.read d.tokens.knows text <;> rfl

theorem addRules_map_strip (d : Draft) (place : Nat) (texts : List String) :
    d.addRules place (texts.map strip) = (d.addRules place texts).mapError EditError.stripped := by
  induction texts generalizing d place with
  | nil => rfl
  | cons text rest ih =>
    rw [List.map_cons, addRules, addRules, addRule_strip]
    rcases d.addRule text with ⟨next, _ | _⟩
    · rfl
    · exact ih next (place + 1)

theorem setRulesText_of_laidOut (d : Draft) (h : LaidOut texts lines)
    (htexts : ∀ text ∈ texts, OneLine text.toList ∧ ¬Idle text) :
    d.setRulesText ("\n".intercalate lines)
      = (d.setRules texts).mapError EditError.stripped := by
  rw [setRulesText, h.rulesOfText_eq htexts]
  exact addRules_map_strip _ 0 texts

def hedge : Draft :=
  ofTokens (TokenTable.listed [('F', .forward), ('X', .nothing)])

def hedgeLines : List String :=
  ["", " # twigs", "\x1f F=FX ", "\t", "\tXF=\x1f"]

theorem laidOut_hedgeLines : LaidOut ["F=FX", "\tXF="] hedgeLines := by
  refine .idle (by decide) (by decide) (.idle (by decide) (by decide) ?_)
  refine .text "\x1f " "F=FX" " " (by decide) (by decide) ?_
  refine .idle (by decide) (by decide) ?_
  exact .text "" "\tXF=" "\x1f" (by decide) (by decide) .nil

theorem setRulesText_of_laidOut_hedge :
    hedge.setRulesText ("\n".intercalate hedgeLines)
        = (hedge.setRules ["F=FX", "\tXF="]).mapError EditError.stripped
      ∧ (hedge.setRulesText ("\n".intercalate hedgeLines)).answer
        = .error (.ruleAt 1 "XF=" (.malformed "XF=" .longLeftSide))
      ∧ (hedge.setRulesText ("\n".intercalate hedgeLines)).state.rules = [(0, [0, 1])] := by
  have hsame := setRulesText_of_laidOut hedge laidOut_hedgeLines (by decide)
  refine ⟨hsame, ?_, ?_⟩
  · rw [hsame]
    rfl
  · rw [hsame]
    rfl

end Draft

end LSystem
