import LSystem.Grammar.Draft
import LSystem.Proofs.Expansion.Productions
import Mathlib.Data.List.Forall2

namespace LSystem.Rule

def read (known : Char → Bool) (text : String) : Except RuleError Rule :=
  match parse text with
  | .error fault => .error (.malformed text fault)
  | .ok rule =>
    match (rule.symbol :: rule.replacement).find? fun c => !known c with
    | some c => .error (.unknown c)
    | none => .ok rule

def readAll (known : Char → Bool) (place : Nat) : List String → Except EditError (List Rule)
  | [] => .ok []
  | text :: rest =>
    match read known text with
    | .error e => .error (.ruleAt place text e)
    | .ok rule => (readAll known (place + 1) rest).map (rule :: ·)

def addAll (p : Productions Char) (rules : List Rule) : Productions Char :=
  p.override (rules.map fun r => (r.symbol, r.replacement))

def leftSide (text : String) : List Char :=
  Text.trim (text.toList.takeWhile (· ≠ '='))

def rightSide (text : String) : List Char :=
  ((text.toList.dropWhile (· ≠ '=')).drop 1).filter fun c => !Text.isBlank c

def substitute (texts : List String) (c : Char) : List Char :=
  match texts.reverse.find? fun text => leftSide text = [c] with
  | some text => rightSide text
  | none => [c]

def substituteAll (texts : List String) (cs : List Char) : List Char :=
  cs.flatMap (substitute texts)

variable {known : Char → Bool} {text : String} {rule : Rule}

theorem sides_of_parse (h : parse text = .ok rule) :
    leftSide text = [rule.symbol] ∧ rightSide text = rule.replacement := by
  unfold parse ofChars at h
  split at h
  · cases h
  · next right hd =>
    split at h
    · cases h
    · next c ht =>
      cases h
      exact ⟨ht, by rw [rightSide, hd]; rfl⟩
    · cases h

theorem read_eq_ok_iff :
    read known text = .ok rule ↔
      parse text = .ok rule ∧ known rule.symbol = true
        ∧ ∀ c ∈ rule.replacement, known c = true := by
  unfold read
  cases parse text with
  | error fault => simp
  | ok r =>
    dsimp only
    split
    · next c hc =>
      have hfalse := List.find?_some hc
      have hmem := List.mem_of_find?_eq_some hc
      constructor
      · intro h
        cases h
      · rintro ⟨h, hs, hr⟩
        cases h
        rcases List.mem_cons.mp hmem with rfl | hmem
        · simp [hs] at hfalse
        · simp [hr c hmem] at hfalse
    · next hnone =>
      have hall := List.find?_eq_none.mp hnone
      constructor
      · intro h
        cases h
        refine ⟨rfl, ?_, fun c hc => ?_⟩
        · simpa using hall rule.symbol (by simp)
        · simpa using hall c (by simp [hc])
      · rintro ⟨h, -, -⟩
        cases h
        rfl

theorem readAll_forall {place : Nat} {texts : List String} {rules : List Rule}
    (h : readAll known place texts = .ok rules) :
    List.Forall₂ (fun text rule => read known text = .ok rule) texts rules := by
  induction texts generalizing place rules with
  | nil =>
    cases h
    exact .nil
  | cons text rest ih =>
    rw [readAll] at h
    split at h
    · cases h
    · next rule hr =>
      cases hrest : readAll known (place + 1) rest with
      | error e => simp [hrest, Except.map] at h
      | ok rs =>
        rw [hrest] at h
        cases h
        exact .cons hr (ih hrest)

theorem within_addAll {p : Productions Char} {P : Char → Prop} (hp : p.Within P) {rules : List Rule}
    (h : ∀ rule ∈ rules, P rule.symbol ∧ ∀ c ∈ rule.replacement, P c) :
    (addAll p rules).Within P := by
  induction rules generalizing p with
  | nil => exact hp
  | cons rule rules ih =>
    have hrule := h rule (by simp)
    exact ih (hp.put hrule.1 hrule.2) fun r hr => h r (by simp [hr])

theorem within_of_readAll {place : Nat} {texts : List String} {rules : List Rule}
    (h : readAll known place texts = .ok rules) :
    (addAll [] rules).Within fun c => known c = true := by
  refine within_addAll (by simp [Productions.Within]) ?_
  have hall := readAll_forall h
  clear h
  induction hall with
  | nil => simp
  | cons hread _ ih =>
    intro rule hrule
    rcases List.mem_cons.mp hrule with rfl | hrule
    · exact (read_eq_ok_iff.mp hread).2
    · exact ih rule hrule

theorem get?_pairs {texts : List String} {rules : List Rule}
    (h : List.Forall₂ (fun text rule => read known text = .ok rule) texts rules) (c : Char) :
    Dictionary.get? (rules.map fun r => (r.symbol, r.replacement)) c
      = (texts.find? fun text => leftSide text = [c]).map rightSide := by
  induction h with
  | nil => rfl
  | @cons text rule texts rules hread _ ih =>
    obtain ⟨hleft, hright⟩ := sides_of_parse (read_eq_ok_iff.mp hread).1
    rw [List.map_cons, Dictionary.get?_cons, List.find?_cons, ih, hleft]
    by_cases hc : rule.symbol = c
    · simp [hc, hright]
    · simp [hc]

theorem production_addAll {place : Nat} {texts : List String} {rules : List Rule}
    (h : readAll known place texts = .ok rules) (c : Char) :
    (addAll [] rules).production c = substitute texts c := by
  have hpairs := get?_pairs (List.forall₂_reverse_iff.mpr (readAll_forall h)) c
  rw [Productions.production, addAll, Dictionary.get?_override, ← List.map_reverse, hpairs,
    substitute]
  cases texts.reverse.find? fun text => leftSide text = [c] <;> rfl

theorem rewrite_addAll {place : Nat} {texts : List String} {rules : List Rule}
    (h : readAll known place texts = .ok rules) :
    (addAll [] rules).rewrite = substituteAll texts := by
  funext cs
  exact List.flatMap_congr fun c _ => production_addAll h c

end LSystem.Rule
