import LSystem.Proofs.Grammar.Spelling

namespace LSystem

/-- An id and the symbol that it was compiled from; it is stale if a new table was refused since. -/
structure Mark where
  id : Nat
  symbol : Char
  stale : Bool
  deriving DecidableEq, Repr

def Mark.age (m : Mark) : Mark :=
  { m with stale := true }

namespace TokenTable

def mark (t : TokenTable) (c : Char) : Mark :=
  ⟨t.idOf c, c, false⟩

def markText (t : TokenTable) (cs : List Char) : List Mark :=
  (cs.filter t.knows).map t.mark

end TokenTable

structure Origins where
  start : List Mark
  rules : List (Mark × List Mark)

namespace Origins

open TokenTable

def initial : Origins := ⟨[], []⟩

def marks (o : Origins) : List Mark :=
  o.start ++ o.rules.flatMap fun r => r.1 :: r.2

def age (o : Origins) : Origins :=
  ⟨o.start.map Mark.age, o.rules.map fun r => (r.1.age, r.2.map Mark.age)⟩

def putRule (o : Origins) (left : Mark) (right : List Mark) : Origins :=
  { o with rules := (o.rules.filter fun r => r.1.id ≠ left.id) ++ [(left, right)] }

def addRules (o : Origins) (t : TokenTable) : List String → Origins
  | [] => o
  | text :: rest =>
    match Rule.read t.knows text with
    | .ok rule => (o.putRule (t.mark rule.symbol) (rule.replacement.map t.mark)).addRules t rest
    | .error _ => o

def setRules (o : Origins) (t : TokenTable) (texts : List String) : Origins :=
  { o with rules := [] }.addRules t texts

def after (o : Origins) (d : Draft) : Draft.Command → Origins
  | .setTokens declarations =>
    match (TokenTable.reset declarations).answer with
    | .ok _ => initial
    | .error _ => o.age
  | .addRule rule => o.addRules d.tokens [rule.toText]
  | .setRules rules => o.setRules d.tokens ((rules.members?.getD []).map Value.toText)
  | .setRulesText rules =>
    o.setRules d.tokens ((Draft.rulesOfText rules.toText.toList).map String.ofList)
  | .setStart text => { o with start := d.tokens.markText text.toText.toList }
  | .addToken _ _ | .removeToken _ | .changeToken _ _ | .changeAction _ _ => o

def afterAll (o : Origins) (d : Draft) : List Draft.Command → Origins
  | [] => o
  | c :: rest => (o.after d c).afterAll (d.perform c).state rest

structure Tracks (o : Origins) (d : Draft) : Prop where
  start : d.start = o.start.map Mark.id
  rules : d.rules = o.rules.map fun r => (r.1.id, r.2.map Mark.id)

variable {o : Origins} {d : Draft} {t : TokenTable} {m : Mark}

theorem Tracks.age (h : o.Tracks d) : o.age.Tracks d := by
  have hid : Mark.id ∘ Mark.age = Mark.id := rfl
  refine ⟨?_, ?_⟩
  · rw [Origins.age, List.map_map, hid, h.start]
  · simp only [Origins.age, List.map_map, Function.comp_def, h.rules]
    rfl

theorem Tracks.putRule (h : o.Tracks d) (left : Mark) (right : List Mark) :
    (o.putRule left right).Tracks { d with rules := d.rules.put left.id (right.map Mark.id) } := by
  refine ⟨h.start, ?_⟩
  change d.rules.put left.id (right.map Mark.id) = _
  rw [h.rules, Dictionary.put, Dictionary.erase, List.filter_map, Origins.putRule, List.map_append]
  rfl

theorem Tracks.addRules (h : o.Tracks d) (place : Nat) (texts : List String) :
    (o.addRules d.tokens texts).Tracks (d.addRules place texts).state := by
  induction texts generalizing o d place with
  | nil => exact h
  | cons text rest ih =>
    rw [Origins.addRules, Draft.addRules, Draft.addRule, compileRule_eq]
    cases Rule.read d.tokens.knows text with
    | error cause => exact h
    | ok rule =>
      have hput := h.putRule (d.tokens.mark rule.symbol) (rule.replacement.map d.tokens.mark)
      rw [List.map_map] at hput
      exact ih hput (place + 1)

theorem Tracks.setRules (h : o.Tracks d) (texts : List String) :
    (o.setRules d.tokens texts).Tracks (d.setRules texts).state := by
  have hclear : Tracks { o with rules := [] } { d with rules := [] } := ⟨h.start, rfl⟩
  exact hclear.addRules 0 texts

theorem Tracks.after (h : o.Tracks d) (c : Draft.Command) :
    (o.after d c).Tracks (d.perform c).state := by
  cases c with
  | setTokens declarations =>
    change (o.after d (.setTokens declarations)).Tracks (d.setTokens declarations).state
    rcases hreset : TokenTable.reset declarations with ⟨t, cause | _⟩
    · simp only [Origins.after, Draft.setTokens, hreset]
      exact ⟨h.age.start, h.age.rules⟩
    · simp only [Origins.after, Draft.setTokens, hreset]
      exact ⟨rfl, rfl⟩
  | addToken symbol action =>
    change o.Tracks (d.addToken symbol action).state
    rw [Draft.state_addToken]
    exact ⟨h.start, h.rules⟩
  | removeToken symbol =>
    change o.Tracks (d.removeToken symbol).state
    rw [Draft.state_removeToken]
    exact ⟨h.start, h.rules⟩
  | changeToken former symbol =>
    obtain ⟨t, ht⟩ := d.exists_state_changeToken former symbol
    change o.Tracks (d.changeToken former symbol).state
    rw [ht]
    exact ⟨h.start, h.rules⟩
  | changeAction symbol action =>
    change o.Tracks (d.changeAction symbol action).state
    rcases d.state_changeAction symbol action with hsame | hadded
    · rw [hsame]
      exact h
    · rw [hadded, Draft.state_addToken]
      exact ⟨h.start, h.rules⟩
  | addRule rule =>
    have hadd := h.addRules 0 [rule.toText]
    rw [Draft.addRules] at hadd
    rw [Draft.perform, Origins.after]
    rcases hrule : d.addRule rule.toText with ⟨next, cause | _⟩
    all_goals
      rw [hrule] at hadd
      exact hadd
  | setRules rules =>
    change (o.after d (.setRules rules)).Tracks (d.setRulesOf rules).state
    rw [Draft.setRulesOf, Origins.after]
    cases rules.members? with
    | none => exact ⟨h.start, rfl⟩
    | some members => exact h.setRules _
  | setRulesText rules => exact h.setRules _
  | setStart text =>
    refine ⟨?_, h.rules⟩
    change d.tokens.compileText text.toText.toList = _
    rw [compileText_eq, Origins.after, markText, List.map_map]
    rfl

end Origins

def Mark.Faithful (m : Mark) (t : TokenTable) : Prop :=
  m.id < t.nextId ∧ ∀ c, t.symbols[m.id]? = some (some c) → c = m.symbol

namespace Mark.Faithful

variable {t : TokenTable} {m : Mark}

theorem erase (h : m.Faithful t) (c : Char) : m.Faithful (t.erase c) := by
  refine ⟨(TokenTable.nextId_erase t c).symm ▸ h.1, fun x hx => h.2 x ?_⟩
  unfold TokenTable.erase at hx
  cases he : t.find? c with
  | none => simpa [he] using hx
  | some e =>
    simp only [he, Array.getElem?_setIfInBounds] at hx
    split at hx
    · simp at hx
    · exact hx

theorem insert (h : m.Faithful t) (c : Char) (a : Action) : m.Faithful (t.insert c a) := by
  have hlt : m.id < (t.erase c).symbols.size := (h.erase c).1
  refine ⟨?_, fun x hx => (h.erase c).2 x ?_⟩
  · rw [TokenTable.nextId_insert]
    exact Nat.lt_succ_of_lt h.1
  · -- the new symbol comes behind all ids handed out before
    simpa [TokenTable.insert, Array.getElem?_push, Nat.ne_of_lt hlt] using hx

end Mark.Faithful

theorem TokenTable.Consistent.faithful_mark {t : TokenTable} (h : t.Consistent) {c : Char}
    (hc : t.knows c = true) : (t.mark c).Faithful t := by
  have hslot : t.symbols[t.idOf c]? = some (some c) := h.symbols_idOf hc
  refine ⟨(Array.getElem?_eq_some_iff.mp hslot).1, fun x hx => ?_⟩
  have hsame : some (some x) = some (some c) := hx.symm.trans hslot
  exact Option.some.inj (Option.some.inj hsame)

namespace Origins

open TokenTable

variable {o : Origins} {d : Draft} {t : TokenTable} {m : Mark}

def Faithful (o : Origins) (t : TokenTable) : Prop :=
  ∀ m ∈ o.marks, m.stale = false → m.Faithful t

theorem stale_of_mem_age (h : m ∈ o.age.marks) : m.stale = true := by
  rcases List.mem_append.mp h with hstart | hrules
  · obtain ⟨k, -, rfl⟩ := List.mem_map.mp hstart
    rfl
  · obtain ⟨_, hr, hm⟩ := List.mem_flatMap.mp hrules
    obtain ⟨r, -, rfl⟩ := List.mem_map.mp hr
    rcases List.mem_cons.mp hm with rfl | hm
    · rfl
    · obtain ⟨k, -, rfl⟩ := List.mem_map.mp hm
      rfl

theorem mem_marks_putRule {left : Mark} {right : List Mark}
    (h : m ∈ (o.putRule left right).marks) : m ∈ o.marks ∨ m = left ∨ m ∈ right := by
  simp only [marks, putRule, List.mem_append, List.flatMap_append, List.mem_flatMap,
    List.mem_filter, List.mem_cons, List.not_mem_nil, or_false] at h ⊢
  rcases h with hstart | ⟨r, ⟨hr, -⟩, hm⟩ | ⟨r, rfl, hm⟩
  · exact Or.inl (Or.inl hstart)
  · exact Or.inl (Or.inr ⟨r, hr, hm⟩)
  · exact Or.inr hm

theorem Faithful.addRules (h : o.Faithful t) (ht : t.Consistent) (texts : List String) :
    (o.addRules t texts).Faithful t := by
  induction texts generalizing o with
  | nil => exact h
  | cons text rest ih =>
    rw [Origins.addRules]
    cases hread : Rule.read t.knows text with
    | error cause => exact h
    | ok rule =>
      obtain ⟨-, hsymbol, hreplacement⟩ := Rule.read_eq_ok_iff.mp hread
      refine ih fun m hm hfresh => ?_
      rcases mem_marks_putRule hm with hold | rfl | hright
      · exact h m hold hfresh
      · exact ht.faithful_mark hsymbol
      · obtain ⟨c, hc, rfl⟩ := List.mem_map.mp hright
        exact ht.faithful_mark (hreplacement c hc)

theorem Faithful.setRules (h : o.Faithful t) (ht : t.Consistent) (texts : List String) :
    (o.setRules t texts).Faithful t := by
  have hclear : Faithful { o with rules := [] } t := fun m hm => by
    have hstart : m ∈ o.start := by simpa [marks] using hm
    exact h m (List.mem_append_left _ hstart)
  exact hclear.addRules ht texts

theorem Faithful.setStart (h : o.Faithful t) (ht : t.Consistent) (cs : List Char) :
    Faithful { o with start := t.markText cs } t := by
  intro m hm hfresh
  rcases List.mem_append.mp hm with hstart | hrules
  · obtain ⟨c, hc, rfl⟩ := List.mem_map.mp hstart
    exact ht.faithful_mark (List.mem_filter.mp hc).2
  · exact h m (List.mem_append_right _ hrules) hfresh

theorem Faithful.after {c : Draft.Command} (h : o.Faithful d.tokens) (ht : d.tokens.Consistent) :
    (o.after d c).Faithful (d.perform c).state.tokens := by
  by_cases hreset : ∃ declarations, c = .setTokens declarations
  · obtain ⟨declarations, rfl⟩ := hreset
    intro m hm hfresh
    cases hanswer : (TokenTable.reset declarations).answer with
    | ok _ =>
      simp only [Origins.after, hanswer] at hm
      cases hm
    | error cause =>
      simp only [Origins.after, hanswer] at hm
      rw [stale_of_mem_age hm] at hfresh
      cases hfresh
  · have hother : ∀ declarations, c ≠ .setTokens declarations := fun declarations heq =>
      hreset ⟨declarations, heq⟩
    have hbefore : (o.after d c).Faithful d.tokens := by
      cases c with
      | setTokens declarations => exact (hother declarations rfl).elim
      | addRule rule => exact h.addRules ht _
      | setRules rules => exact h.setRules ht _
      | setRulesText rules => exact h.setRules ht _
      | setStart text => exact h.setStart ht _
      | addToken | removeToken | changeToken | changeAction => exact h
    intro m hm hfresh
    exact Draft.tokens_perform_induct (fun _ x h => h.erase x) (fun _ x a h => h.insert x a)
      (hbefore m hm hfresh) hother

/-- The origins of a draft, where no id is of another symbol than the one it was compiled from. -/
structure Sound (o : Origins) (d : Draft) : Prop where
  consistent : d.tokens.Consistent
  tracks : o.Tracks d
  faithful : o.Faithful d.tokens

theorem sound_empty : initial.Sound .empty :=
  ⟨consistent_empty, ⟨rfl, rfl⟩, nofun⟩

theorem Sound.after (h : o.Sound d) (c : Draft.Command) :
    (o.after d c).Sound (d.perform c).state :=
  ⟨Draft.consistent_perform h.consistent c, h.tracks.after c, h.faithful.after h.consistent⟩

end Origins

def Draft.performAll (d : Draft) (commands : List Command) : Draft :=
  commands.foldl (fun d c => (d.perform c).state) d

theorem Origins.Sound.afterAll {o : Origins} {d : Draft} (h : o.Sound d)
    (commands : List Draft.Command) : (o.afterAll d commands).Sound (d.performAll commands) := by
  induction commands generalizing o d with
  | nil => exact h
  | cons c rest ih => exact ih (h.after c)

namespace Draft

theorem symbols_of_faithful {t : TokenTable} {m : Mark} (h : m.Faithful t) :
    t.symbols[m.id]?.join = none ∨ t.symbols[m.id]?.join = some m.symbol := by
  cases hslot : t.symbols[m.id]? with
  | none => exact Or.inl rfl
  | some slot =>
    cases slot with
    | none => exact Or.inl rfl
    | some c => exact Or.inr (congrArg some (h.2 c hslot))

theorem symbolOf_build_natCast (d : Draft) (id : Nat) :
    d.build.symbolOf id = ((d.tokens.symbols[id]?.join).map Char.toString).getD "?" := by
  have h0 : ¬ (id : Int) < 0 := Int.not_lt.mpr (Int.natCast_nonneg id)
  rw [Grammar.symbolOf, if_neg h0]
  simp only [build, Int.toNat_natCast, Array.getElem?_map]
  cases d.tokens.symbols[id]? with
  | none => rfl
  | some slot => cases slot <;> rfl

theorem compiled_ids_keep_their_symbols (commands : List Command) :
    (Origins.initial.afterAll empty commands).Tracks (empty.performAll commands)
      ∧ ∀ m ∈ (Origins.initial.afterAll empty commands).marks, m.stale = false →
          ((empty.performAll commands).tokens.symbols[m.id]?.join = none
              ∨ (empty.performAll commands).tokens.symbols[m.id]?.join = some m.symbol)
            ∧ ((empty.performAll commands).build.symbolOf m.id = "?"
              ∨ (empty.performAll commands).build.symbolOf m.id = m.symbol.toString) := by
  have hsound := Origins.sound_empty.afterAll commands
  refine ⟨hsound.tracks, fun m hm hfresh => ?_⟩
  have hsymbols := symbols_of_faithful (hsound.faithful m hm hfresh)
  refine ⟨hsymbols, ?_⟩
  rw [symbolOf_build_natCast]
  rcases hsymbols with hnone | hsome
  · exact Or.inl (by rw [hnone]; rfl)
  · exact Or.inr (by rw [hsome]; rfl)

def retiringCommands : List Command :=
  [.setTokens [.of 'B' .push, ⟨.text "CC", .proper .pop⟩],
    .setTokens [.of 'A' .forward, .of 'B' .nothing], .setStart (.text "AB"),
    .addRule (.text "A=AB"), .changeToken (.text "A") (.text "C"),
    .addToken (.text "B") (.proper .push)]

theorem compiled_ids_keep_their_symbols_retired :
    (Origins.initial.afterAll empty retiringCommands).marks
        = [⟨0, 'A', false⟩, ⟨1, 'B', false⟩, ⟨0, 'A', false⟩, ⟨0, 'A', false⟩, ⟨1, 'B', false⟩]
      ∧ ((empty.performAll retiringCommands).build.symbolOf 1 = "?"
        ∨ (empty.performAll retiringCommands).build.symbolOf 1 = 'B'.toString) := by
  have hmarks : (Origins.initial.afterAll empty retiringCommands).marks
      = [⟨0, 'A', false⟩, ⟨1, 'B', false⟩, ⟨0, 'A', false⟩, ⟨0, 'A', false⟩, ⟨1, 'B', false⟩] := rfl
  have hmem : ⟨1, 'B', false⟩ ∈ (Origins.initial.afterAll empty retiringCommands).marks := by
    rw [hmarks]
    simp
  exact ⟨hmarks, ((compiled_ids_keep_their_symbols retiringCommands).2 _ hmem rfl).2⟩

def renumberingCommands : List Command :=
  [.setTokens [.of 'A' .forward, .of 'B' .nothing], .setStart (.text "A"),
    .setTokens [.of 'B' .push, ⟨.text "CC", .proper .pop⟩]]

theorem compiled_id_of_another_symbol :
    (Origins.initial.afterAll empty renumberingCommands).marks = [⟨0, 'A', true⟩]
      ∧ (empty.performAll renumberingCommands).start = [0]
      ∧ (empty.performAll renumberingCommands).tokens.symbols[0]? = some (some 'B')
      ∧ (empty.performAll renumberingCommands).build.symbolOf 0 = 'B'.toString :=
  ⟨rfl, rfl, rfl, (symbolOf_build_natCast _ 0).trans rfl⟩

end Draft

end LSystem
