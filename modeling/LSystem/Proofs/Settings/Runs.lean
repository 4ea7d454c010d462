import LSystem.Proofs.Outcome
import LSystem.Settings.Session
import Mathlib.Data.List.Induction

namespace LSystem

namespace Session

inductive Call where
  | name (text : Option String)
  | settings
  | outputDirectory

structure Visit where
  surroundings : Surroundings
  call : Call

def perform (s : Session) (v : Visit) : Session :=
  match v.call with
  | .name text => (s.name v.surroundings text).state
  | .settings => (s.settings v.surroundings).state
  | .outputDirectory => (s.outputDirectory v.surroundings).state

def performAll (s : Session) (visits : List Visit) : Session :=
  visits.foldl perform s

namespace Visit

def naming? (v : Visit) : Option (Option Path) :=
  match v.call with
  | .name none => some none
  | .name (some text) => (v.surroundings.expandHome (.ofText text)).toOption.map some
  | .settings | .outputDirectory => none

def load? (named : Option Path) (v : Visit) : Option Settings :=
  match v.call with
  | .name _ => none
  | .settings | .outputDirectory => (Settings.load v.surroundings named).toOption

end Visit

def lastNamed (visits : List Visit) : Option Path :=
  (visits.reverse.findSome? Visit.naming?).getD none

def sinceNamed (visits : List Visit) : List Visit :=
  (visits.reverse.takeWhile fun v => v.naming?.isNone).reverse

def firstLoaded (visits : List Visit) : Option Settings :=
  (sinceNamed visits).findSome? (Visit.load? (lastNamed visits))

variable {s : Session} {visits : List Visit} {v : Visit}

theorem perform_settings (s : Session) (w : Surroundings) :
    (s.settings w).state = ⟨s.named, s.loaded.or (Settings.load w s.named).toOption⟩ := by
  rw [settings]
  obtain ⟨named, loaded⟩ := s
  cases loaded with
  | some kept => rfl
  | none =>
    dsimp only
    cases Settings.load w named <;> rfl

theorem perform_eq (s : Session) (v : Visit) :
    s.perform v = match v.naming? with
      | some named => ⟨named, none⟩
      | none => ⟨s.named, s.loaded.or (v.load? s.named)⟩ := by
  obtain ⟨w, c⟩ := v
  cases c with
  | name text =>
    cases text with
    | none => rfl
    | some text =>
      simp only [perform, name, Visit.naming?, Visit.load?, Option.or_none]
      cases w.expandHome (.ofText text) <;> rfl
  | settings => exact perform_settings s w
  | outputDirectory => exact perform_settings s w

theorem lastNamed_concat (visits : List Visit) (v : Visit) :
    lastNamed (visits ++ [v]) = v.naming?.getD (lastNamed visits) := by
  rw [lastNamed, List.reverse_concat, List.findSome?_cons]
  cases v.naming? <;> rfl

theorem sinceNamed_concat (visits : List Visit) (v : Visit) :
    sinceNamed (visits ++ [v]) = if v.naming?.isNone then sinceNamed visits ++ [v] else [] := by
  rw [sinceNamed, List.reverse_concat, List.takeWhile_cons]
  split
  · exact List.reverse_cons
  · rfl

theorem firstLoaded_concat_of_naming {named : Option Path} (h : v.naming? = some named) :
    firstLoaded (visits ++ [v]) = none := by
  rw [firstLoaded, sinceNamed_concat, h]
  rfl

theorem firstLoaded_concat (h : v.naming? = none) :
    firstLoaded (visits ++ [v]) = (firstLoaded visits).or (v.load? (lastNamed visits)) := by
  have hsince : sinceNamed (visits ++ [v]) = sinceNamed visits ++ [v] := by
    rw [sinceNamed_concat, h]
    rfl
  have hlast : lastNamed (visits ++ [v]) = lastNamed visits := by
    rw [lastNamed_concat, h]
    rfl
  rw [firstLoaded, hsince, hlast, List.findSome?_append, List.findSome?_singleton]
  rfl

theorem performAll_fresh (visits : List Visit) :
    fresh.performAll visits = ⟨lastNamed visits, firstLoaded visits⟩ := by
  -- the last naming and the loads after it are counted from the end
  induction visits using List.reverseRecOn with
  | nil => rfl
  | append_singleton visits v ih =>
    have hlast : fresh.performAll (visits ++ [v]) = (fresh.performAll visits).perform v :=
      List.foldl_append ..
    rw [hlast, ih, perform_eq, lastNamed_concat]
    cases hnaming : v.naming? with
    | some named =>
      rw [firstLoaded_concat_of_naming hnaming]
      rfl
    | none =>
      rw [firstLoaded_concat hnaming]
      rfl

theorem answer_settings (s : Session) (w : Surroundings) :
    (s.settings w).answer = match s.loaded with
      | some kept => .ok kept
      | none => Settings.load w s.named := by
  rw [settings]
  cases s.loaded with
  | some kept => rfl
  | none =>
    dsimp only
    cases Settings.load w s.named <;> rfl

theorem performAll_of_loaded {kept : Settings} (h : s.loaded = some kept)
    (hnaming : ∀ v ∈ visits, v.naming? = none) : s.performAll visits = s := by
  induction visits with
  | nil => rfl
  | cons v visits ih =>
    have hone : s.perform v = s := by
      rw [perform_eq, hnaming v List.mem_cons_self, h, Option.some_or, ← h]
    have hall : s.performAll (v :: visits) = (s.perform v).performAll visits := rfl
    rw [hall, hone]
    exact ih fun u hu => hnaming u (List.mem_cons_of_mem v hu)

theorem settings_of_error {w : Surroundings} {e : SettingsError}
    (h : (s.settings w).answer = .error e) :
    s.loaded = none ∧ Settings.load w s.named = .error e ∧ (s.settings w).state = s := by
  rw [answer_settings] at h
  obtain ⟨named, loaded⟩ := s
  cases loaded with
  | some kept => cases h
  | none =>
    have hload : Settings.load w named = .error e := h
    refine ⟨rfl, hload, ?_⟩
    rw [perform_settings]
    dsimp only
    rw [hload]
    rfl

theorem loaded_of_ok {w : Surroundings} {kept : Settings} (h : (s.settings w).answer = .ok kept) :
    (s.settings w).state.loaded = some kept := by
  rw [answer_settings] at h
  rw [perform_settings]
  obtain ⟨named, loaded⟩ := s
  cases loaded with
  | some kept' => exact congrArg some (Except.ok.inj h)
  | none => exact toOption_eq_some_iff.mpr h

theorem firstLoaded_of_ok {w : Surroundings} {kept : Settings}
    (h : ((fresh.performAll visits).settings w).answer = .ok kept) :
    firstLoaded (visits ++ [⟨w, .settings⟩]) = some kept := by
  have hlast : fresh.performAll (visits ++ [⟨w, .settings⟩])
      = ((fresh.performAll visits).settings w).state := List.foldl_append ..
  have hloaded := loaded_of_ok h
  rw [← hlast, performAll_fresh] at hloaded
  exact hloaded

theorem settings_are_loaded_once (visits : List Visit) (w : Surroundings) :
    (∀ kept, ((fresh.performAll visits).settings w).answer = .ok kept →
        firstLoaded (visits ++ [⟨w, .settings⟩]) = some kept
          ∧ ∀ later : List Visit, (∀ v ∈ later, v.naming? = none) → ∀ w',
            ((((fresh.performAll visits).settings w).state.performAll later).settings w').answer
              = .ok kept)
      ∧ (∀ e, ((fresh.performAll visits).settings w).answer = .error e →
          Settings.load w (lastNamed visits) = .error e
            ∧ fresh.performAll visits = ⟨lastNamed visits, none⟩
            ∧ ((fresh.performAll visits).settings w).state = fresh.performAll visits
            ∧ ∀ w', (((fresh.performAll visits).settings w).state.settings w').answer
                = Settings.load w' (lastNamed visits))
      ∧ ((fresh.performAll visits).outputDirectory w).state
          = ((fresh.performAll visits).settings w).state
      ∧ ((fresh.performAll visits).outputDirectory w).answer
          = ((fresh.performAll visits).settings w).answer.map Settings.outputDirectory := by
  refine ⟨?_, ?_, rfl, rfl⟩
  · intro kept hkept
    have hloaded := loaded_of_ok hkept
    refine ⟨firstLoaded_of_ok hkept, ?_⟩
    intro later hlater w'
    rw [performAll_of_loaded hloaded hlater, answer_settings, hloaded]
  · intro e he
    obtain ⟨hnone, hload, hstate⟩ := settings_of_error he
    have hnamed : (fresh.performAll visits).named = lastNamed visits := by
      rw [performAll_fresh]
    refine ⟨hnamed ▸ hload, ?_, hstate, ?_⟩
    · rw [← hnamed, ← hnone]
    · intro w'
      rw [hstate, answer_settings, hnone, hnamed]

def bare : Surroundings :=
  .create (.ofText "/work") "/home/arbor" [] []

def furnished : Surroundings :=
  (bare.store (.ofText ".arbor/config.yaml")
    (.parsed (.mapping [("plant", .mapping [("preset", .text "plant")])]))).state

theorem refused_name_keeps_settings :
    (⟨furnished, .name (some "~nobody")⟩ : Visit).naming? = none
      ∧ (((fresh.performAll [⟨bare, .settings⟩, ⟨furnished, .name (some "~nobody")⟩]).settings
          furnished).answer.map Settings.preset).toOption = some "bush"
      ∧ ((Settings.load furnished none).map Settings.preset).toOption = some "plant" := by
  decide +kernel

end Session

end LSystem
