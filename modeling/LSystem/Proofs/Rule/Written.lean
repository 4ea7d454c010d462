import LSystem.Proofs.Text.Blank
import LSystem.Rule

namespace LSystem.Rule

open Text

/-- A symbol, an equals sign and the symbols that replace it, with blanks in front of each of them
and at the end. -/
@[ext] structure Written where
  before : List Char
  symbol : Char
  between : List Char
  tokens : List (List Char × Char)
  last : List Char
  blank_before : Blank before
  symbol_ne : symbol ≠ '='
  symbol_visible : isBlank symbol = false
  blank_between : Blank between
  tokens_spaced : ∀ t ∈ tokens, Blank t.1 ∧ isBlank t.2 = false
  blank_last : Blank last

namespace Written

def spread (tokens : List (List Char × Char)) : List Char :=
  tokens.flatMap fun t => t.1 ++ [t.2]

def chars (w : Written) : List Char :=
  w.before ++ w.symbol :: w.between ++ '=' :: (spread w.tokens ++ w.last)

def text (w : Written) : String :=
  String.ofList w.chars

def rule (w : Written) : Rule :=
  ⟨w.symbol, w.tokens.map Prod.snd⟩

end Written

open Written

variable {cs left right : List Char} {text : String} {rule : Rule}

def visible (cs : List Char) : List Char :=
  cs.filter fun c => !isBlank c

theorem visible_of_blank (h : Blank cs) : visible cs = [] :=
  List.filter_eq_nil_iff.mpr fun c hc => by simp [h c hc]

theorem visible_append (cs ds : List Char) : visible (cs ++ ds) = visible cs ++ visible ds :=
  List.filter_append cs ds

theorem visible_spread {tokens : List (List Char × Char)}
    (h : ∀ t ∈ tokens, Blank t.1 ∧ isBlank t.2 = false) :
    visible (spread tokens) = tokens.map Prod.snd := by
  induction tokens with
  | nil => rfl
  | cons t tokens ih =>
    obtain ⟨⟨hgap, hsymbol⟩, hrest⟩ := List.forall_mem_cons.mp h
    have hfirst : visible (t.1 ++ [t.2]) = [t.2] := by
      rw [visible_append, visible_of_blank hgap]
      simp [visible, hsymbol]
    change visible ((t.1 ++ [t.2]) ++ spread tokens) = t.2 :: tokens.map Prod.snd
    rw [visible_append, hfirst, ih hrest]
    rfl

theorem exists_eq_spread (cs : List Char) :
    ∃ tokens last, cs = spread tokens ++ last
      ∧ (∀ t ∈ tokens, Blank t.1 ∧ isBlank t.2 = false) ∧ Blank last := by
  induction cs with
  | nil => exact ⟨[], [], rfl, by simp, blank_nil⟩
  | cons c cs ih =>
    obtain ⟨tokens, last, rfl, htokens, hlast⟩ := ih
    cases hc : isBlank c with
    | false =>
      refine ⟨([], c) :: tokens, last, rfl, ?_, hlast⟩
      exact List.forall_mem_cons.mpr ⟨⟨blank_nil, hc⟩, htokens⟩
    | true =>
      cases tokens with
      | nil => exact ⟨[], c :: last, rfl, by simp, blank_cons.mpr ⟨hc, hlast⟩⟩
      | cons t tokens =>
        obtain ⟨⟨hgap, hsymbol⟩, hrest⟩ := List.forall_mem_cons.mp htokens
        refine ⟨(c :: t.1, t.2) :: tokens, last, rfl, ?_, hlast⟩
        exact List.forall_mem_cons.mpr ⟨⟨blank_cons.mpr ⟨hc, hgap⟩, hsymbol⟩, hrest⟩

theorem spread_cons_append (t : List Char × Char) (tokens : List (List Char × Char))
    (cs : List Char) : spread (t :: tokens) ++ cs = t.1 ++ t.2 :: (spread tokens ++ cs) := by
  simp [spread]

theorem spread_append_inj {tokens tokens' : List (List Char × Char)} {last last' : List Char}
    (h : ∀ t ∈ tokens, Blank t.1 ∧ isBlank t.2 = false)
    (h' : ∀ t ∈ tokens', Blank t.1 ∧ isBlank t.2 = false) (hlast : Blank last)
    (hlast' : Blank last') (heq : spread tokens ++ last = spread tokens' ++ last') :
    tokens = tokens' ∧ last = last' := by
  induction tokens generalizing tokens' with
  | nil =>
    cases tokens' with
    | nil => exact ⟨rfl, heq⟩
    | cons t' tokens' =>
      have hmem : t'.2 ∈ last := by
        rw [show last = _ from heq.trans (spread_cons_append t' tokens' last')]
        simp
      exact absurd hmem (hlast.not_mem (h' t' List.mem_cons_self).2)
  | cons t tokens ih =>
    obtain ⟨⟨hgap, hsymbol⟩, hrest⟩ := List.forall_mem_cons.mp h
    cases tokens' with
    | nil =>
      have hmem : t.2 ∈ last' := by
        rw [show last' = _ from heq.symm.trans (spread_cons_append t tokens last)]
        simp
      exact absurd hmem (hlast'.not_mem hsymbol)
    | cons t' tokens' =>
      obtain ⟨⟨hgap', hsymbol'⟩, hrest'⟩ := List.forall_mem_cons.mp h'
      rw [spread_cons_append, spread_cons_append] at heq
      obtain ⟨hfirst, hsecond, heq⟩ := eq_of_blank_append_cons hgap hgap' hsymbol hsymbol' heq
      obtain ⟨rfl, hends⟩ := ih hrest hrest' heq
      exact ⟨by rw [Prod.ext hfirst hsecond], hends⟩

theorem chars_injective : Function.Injective chars := by
  intro w w' h
  have hequals : isBlank '=' = false := by decide
  simp only [chars, List.append_assoc, List.cons_append] at h
  obtain ⟨hbefore, hsymbol, h⟩ := eq_of_blank_append_cons w.blank_before w'.blank_before
    w.symbol_visible w'.symbol_visible h
  obtain ⟨hbetween, -, h⟩ := eq_of_blank_append_cons w.blank_between w'.blank_between hequals
    hequals h
  obtain ⟨htokens, hlast⟩ := spread_append_inj w.tokens_spaced w'.tokens_spaced w.blank_last
    w'.blank_last h
  exact Written.ext hbefore hsymbol hbetween htokens hlast

theorem text_injective : Function.Injective Written.text := by
  intro w w' h
  exact chars_injective (String.ofList_injective h)

theorem equals_not_mem (h : Blank cs) : '=' ∉ cs :=
  h.not_mem (by decide)

theorem ofChars_of_not_mem (h : '=' ∉ cs) : ofChars cs = .error .noEquals := by
  have hnone : cs.dropWhile (· ≠ '=') = [] := by
    rw [List.dropWhile_eq_nil_iff]
    intro c hc
    exact decide_eq_true fun heq => h (heq ▸ hc)
  rw [ofChars, hnone]

theorem ofChars_of_split (h : '=' ∉ left) :
    ofChars (left ++ '=' :: right) = match trim left with
      | [] => .error .noLeftSide
      | [c] => .ok ⟨c, visible right⟩
      | _ => .error .longLeftSide := by
  have hleft : ∀ c ∈ left, decide (c ≠ '=') = true := fun c hc =>
    decide_eq_true fun heq => h (heq ▸ hc)
  rw [ofChars, List.dropWhile_append_of_pos hleft, List.takeWhile_append_of_pos hleft]
  simp only [ne_eq, not_true_eq_false, decide_false, Bool.false_eq_true, not_false_eq_true,
    List.dropWhile_cons_of_neg, List.takeWhile_cons_of_neg, List.append_nil]
  rfl

theorem ofChars_cases (cs : List Char) :
    ('=' ∉ cs ∧ ofChars cs = .error .noEquals) ∨
      ∃ left right, cs = left ++ '=' :: right ∧ '=' ∉ left ∧
        ((Blank left ∧ ofChars cs = .error .noLeftSide)
          ∨ (∃ c, trim left = [c] ∧ ofChars cs = .ok ⟨c, visible right⟩)
          ∨ (¬Blank left ∧ ofChars cs = .error .longLeftSide)) := by
  by_cases hmem : '=' ∈ cs
  · obtain ⟨left, right, rfl, hleft⟩ := List.eq_append_cons_of_mem hmem
    refine Or.inr ⟨left, right, rfl, hleft, ?_⟩
    rw [ofChars_of_split hleft, ← trim_eq_nil_iff]
    rcases trim left with - | ⟨c, - | ⟨d, rest⟩⟩
    · exact Or.inl ⟨rfl, rfl⟩
    · exact Or.inr (Or.inl ⟨c, rfl, rfl⟩)
    · exact Or.inr (Or.inr ⟨List.cons_ne_nil c _, rfl⟩)
  · exact Or.inl ⟨hmem, ofChars_of_not_mem hmem⟩

theorem ofChars_pad {before after : List Char} (hb : Blank before) (ha : Blank after) :
    ofChars (before ++ cs ++ after) = ofChars cs := by
  have hbefore := equals_not_mem hb
  have hafter := equals_not_mem ha
  by_cases hmem : '=' ∈ cs
  · obtain ⟨left, right, rfl, hleft⟩ := List.eq_append_cons_of_mem hmem
    have hpadded : '=' ∉ before ++ left := by
      simp [hleft, hbefore]
    have hchars : before ++ (left ++ '=' :: right) ++ after
        = (before ++ left) ++ '=' :: (right ++ after) := by
      simp
    rw [hchars, ofChars_of_split hpadded, ofChars_of_split hleft, trim_blank_append hb,
      visible_append, visible_of_blank ha, List.append_nil]
  · have hpadded : '=' ∉ before ++ cs ++ after := by
      simp [hmem, hbefore, hafter]
    rw [ofChars_of_not_mem hmem, ofChars_of_not_mem hpadded]

theorem parse_strip (text : String) : parse (strip text) = parse text := by
  obtain ⟨before, after, htext, hbefore, hafter⟩ := exists_eq_append_trim text.toList
  rw [parse, parse, toList_strip, ← ofChars_pad hbefore hafter, ← htext]

theorem ofChars_chars (w : Written) : ofChars w.chars = .ok w.rule := by
  have hleft : '=' ∉ w.before ++ w.symbol :: w.between := by
    simp [equals_not_mem w.blank_before, equals_not_mem w.blank_between, w.symbol_ne.symm]
  have htrim : trim (w.before ++ w.symbol :: w.between) = [w.symbol] := by
    have hsingle : trim [w.symbol] = [w.symbol] := by
      simp [trim, trimBy, w.symbol_visible]
    have hpad : trim (w.before ++ [w.symbol] ++ w.between) = trim [w.symbol] :=
      trim_pad w.blank_before w.blank_between
    rwa [hsingle, List.append_assoc] at hpad
  rw [chars, ofChars_of_split hleft, htrim, visible_append, visible_spread w.tokens_spaced,
    visible_of_blank w.blank_last, List.append_nil]
  rfl

theorem exists_written (h : ofChars cs = .ok rule) :
    ∃ w : Written, w.chars = cs ∧ w.rule = rule := by
  rcases ofChars_cases cs with
    ⟨-, hcs⟩ | ⟨left, right, rfl, hleft, ⟨-, hcs⟩ | ⟨c, htrim, hcs⟩ | ⟨-, hcs⟩⟩
  · cases hcs.symm.trans h
  · cases hcs.symm.trans h
  · cases hcs.symm.trans h
    obtain ⟨before, after, hsides, hbefore, hafter⟩ := exists_eq_append_trim left
    obtain ⟨tokens, last, hright, htokens, hlast⟩ := exists_eq_spread right
    rw [htrim] at hsides
    have hsymbol : c ≠ '=' := by
      rintro rfl
      exact hleft (by simp [hsides])
    refine ⟨⟨before, c, after, tokens, last, hbefore, hsymbol, isBlank_of_trim_eq_singleton htrim,
      hafter, htokens, hlast⟩, ?_, ?_⟩
    · simp [chars, hsides, hright]
    · rw [Written.rule, hright, visible_append, visible_spread htokens, visible_of_blank hlast,
        List.append_nil]
  · cases hcs.symm.trans h

theorem parse_eq_ok_iff :
    parse text = .ok rule ↔ ∃ w : Written, w.text = text ∧ w.rule = rule := by
  constructor
  · intro h
    obtain ⟨w, hchars, hrule⟩ := exists_written h
    refine ⟨w, ?_, hrule⟩
    rw [Written.text, hchars, String.ofList_toList]
  · rintro ⟨w, rfl, rfl⟩
    rw [parse, Written.text, String.toList_ofList]
    exact ofChars_chars w

theorem ofChars_eq_noEquals_iff : ofChars cs = .error .noEquals ↔ '=' ∉ cs := by
  constructor
  · intro h hmem
    obtain ⟨left, right, rfl, hleft⟩ := List.eq_append_cons_of_mem hmem
    rw [ofChars_of_split hleft] at h
    split at h <;> cases h
  · exact ofChars_of_not_mem

theorem ofChars_eq_noLeftSide_iff :
    ofChars cs = .error .noLeftSide ↔ ∃ left right, cs = left ++ '=' :: right ∧ Blank left := by
  constructor
  · intro h
    rcases ofChars_cases cs with
      ⟨-, hcs⟩ | ⟨left, right, hsplit, -, ⟨hblank, -⟩ | ⟨c, -, hcs⟩ | ⟨-, hcs⟩⟩
    · cases hcs.symm.trans h
    · exact ⟨left, right, hsplit, hblank⟩
    · cases hcs.symm.trans h
    · cases hcs.symm.trans h
  · rintro ⟨left, right, rfl, hblank⟩
    rw [ofChars_of_split (equals_not_mem hblank), trim_eq_nil_iff.mpr hblank]

theorem parse_accepts_written (text : String) :
    (∀ rule, parse text = .ok rule ↔ ∃ w : Written, w.text = text ∧ w.rule = rule)
      ∧ (parse text = .error .noEquals ↔ '=' ∉ text.toList)
      ∧ (parse text = .error .noLeftSide ↔
          ∃ left right, text.toList = left ++ '=' :: right ∧ Blank left)
      ∧ (parse text = .error .longLeftSide ↔
          '=' ∈ text.toList
            ∧ (¬∃ left right, text.toList = left ++ '=' :: right ∧ Blank left)
            ∧ ¬∃ w : Written, w.text = text)
      ∧ (∀ w : Written, parse w.text = .ok w.rule)
      ∧ Function.Injective Written.text := by
  refine ⟨fun rule => parse_eq_ok_iff, ofChars_eq_noEquals_iff, ofChars_eq_noLeftSide_iff, ?_,
    fun w => parse_eq_ok_iff.mpr ⟨w, rfl, rfl⟩, text_injective⟩
  rw [← ofChars_eq_noLeftSide_iff]
  have hequals : '=' ∈ text.toList ↔ ofChars text.toList ≠ .error .noEquals := by
    rw [ne_eq, ofChars_eq_noEquals_iff, not_not]
  have hwritten : (∃ w : Written, w.text = text) ↔ ∃ rule, parse text = .ok rule := by
    simp [parse_eq_ok_iff]
  rw [hequals, hwritten, ← parse]
  rcases parse text with (- | - | -) | rule <;> simp

example : parse "\n X\t=\u2003F = [\r\n" = .ok ⟨'X', ['F', '=', '[']⟩ := by
  decide

end LSystem.Rule
