import LSystem.Proofs.Garden.Everywhere
import LSystem.Proofs.Settings.Layers
import LSystem.Proofs.Wavefront.Writable

namespace LSystem

theorem Options.exists_preset {name : String} (h : name ∈ presetNames) :
    ∃ o, preset (.text name) = .ok o := by
  obtain ⟨⟨key, o⟩, hmem, rfl⟩ := List.mem_map.mp h
  have hpreset : presets.get? key = some o := (Dictionary.get?_eq_some_iff (by decide)).mpr hmem
  refine ⟨o, ?_⟩
  rw [preset, Value.toText_text, hpreset]

namespace Settings

variable {w : Surroundings} {named source : Option Path} {layer : Layer} {s : Settings}

structure Checked (s : Settings) : Prop where
  preset : s.preset ∈ Options.presetNames
  limit : ∀ n, s.limit = some n → 1 ≤ n
  places : 0 ≤ s.places

theorem checked_of_places {directory : Path} {preset : String} {tokens : List (Char × Action)}
    {limit : Option Int} (hpreset : preset ∈ Options.presetNames)
    (hlimit : ∀ n, limit = some n → 1 ≤ n) (h : (do
      let obj ← sectionOf (← sectionOf layer "export") "obj"
      let places ← integerOf "export.obj.decimals" (under obj "decimals")
      let places := places.getD 6
      if places < 0 then throw (.badPlaces places)
      return ⟨source, directory, preset, tokens, limit, places⟩ :
        Except SettingsError Settings) = .ok s) :
    s.Checked := by
  obtain ⟨entries, -, h⟩ := exists_of_bind_eq_ok h
  obtain ⟨obj, -, h⟩ := exists_of_bind_eq_ok h
  obtain ⟨places, -, h⟩ := exists_of_bind_eq_ok h
  obtain ⟨hplaces, h⟩ := of_guard_eq_ok h
  obtain rfl := Except.ok.inj h
  exact ⟨hpreset, hlimit, Int.not_lt.mp hplaces⟩

theorem checked_of_ofLayer (h : ofLayer w source layer = .ok s) : s.Checked := by
  obtain ⟨version, -, h⟩ := exists_of_bind_eq_ok h
  obtain ⟨-, h⟩ := of_guard_eq_ok h
  obtain ⟨paths, -, h⟩ := exists_of_bind_eq_ok h
  obtain ⟨-, h⟩ := of_guard_eq_ok h
  obtain ⟨directory, -, h⟩ := exists_of_bind_eq_ok h
  obtain ⟨plant, -, h⟩ := exists_of_bind_eq_ok h
  obtain ⟨hpreset, h⟩ := of_guard_eq_ok h
  obtain ⟨tokens, -, h⟩ := exists_of_bind_eq_ok h
  obtain ⟨limits, -, h⟩ := exists_of_bind_eq_ok h
  obtain ⟨limit, -, h⟩ := exists_of_bind_eq_ok h
  have hknown : textOf (under plant "preset") "bush" ∈ Options.presetNames := by
    simpa using hpreset
  cases limit with
  | none =>
    refine checked_of_places hknown ?_ h
    nofun
  | some n =>
    obtain ⟨hn, h⟩ := of_guard_eq_ok h
    refine checked_of_places hknown ?_ h
    intro m hm
    obtain rfl := Option.some.inj hm
    omega

theorem checked_of_layered (h : layered w named = .ok s) : s.Checked := by
  obtain ⟨found, -, h⟩ := exists_of_bind_eq_ok h
  obtain ⟨below, -, h⟩ := exists_of_bind_eq_ok h
  obtain ⟨above, -, h⟩ := exists_of_bind_eq_ok h
  exact checked_of_ofLayer h

theorem checked_of_load (h : load w named = .ok s) : s.Checked := by
  cases named with
  | none => exact checked_of_layered h
  | some p =>
    rw [load_some] at h
    split at h
    · exact checked_of_layered h
    · cases h
    · cases h

def plantLimit (s : Settings) : Value :=
  (s.limit.map Value.int).getD .null

theorem fitting_plantLimit (s : Settings) : Garden.Fitting s.plantLimit := by
  rw [plantLimit]
  cases s.limit with
  | none => exact Garden.fitting_null
  | some n => exact Garden.fitting_int n

theorem checked_of_settings {visits : List Session.Visit}
    (h : ((Session.fresh.performAll visits).settings w).answer = .ok s) : s.Checked := by
  obtain ⟨v, -, hload⟩ := List.exists_of_findSome?_eq_some (Session.firstLoaded_of_ok h)
  cases hcall : v.call with
  | name text =>
    rw [Session.Visit.load?, hcall] at hload
    cases hload
  | settings | outputDirectory =>
    rw [Session.Visit.load?, hcall] at hload
    exact checked_of_load (toOption_eq_some_iff.mp hload)

theorem loaded_settings_serve {visits : List Session.Visit}
    (h : ((Session.fresh.performAll visits).settings w).answer = .ok s) :
    (∃ o, Options.preset (.text s.preset) = .ok o)
      ∧ (∀ d ∈ declare s.tokens, ∃ c a, d.symbol.symbol? = some c ∧ d.action = .proper a)
      ∧ (∀ n, s.limit = some n → 1 ≤ n)
      ∧ 0 ≤ s.places
      ∧ (∀ options, ∃ p, Plant.create options (declare s.tokens) s.plantLimit = .ok p)
      ∧ (∀ options deeds queue, ∃ report,
          ({ (Garden.create (declare s.tokens) options s.plantLimit).actAll deeds with
            queue := queue } : Garden).step.answer = .ok report)
      ∧ (∀ t name, (∃ ls, Wavefront.linesWith t (.int s.places) name = .ok ls)
          ↔ Wavefront.Writable t s.places.toNat)
      ∧ (1024 + s.places ≤ Decimal.maxRealDigits →
          ∀ t name, ∃ ls, Wavefront.linesWith t (.int s.places) name = .ok ls) := by
  have hs := checked_of_settings h
  have hreset := TokenTable.reset_declare s.tokens
  have hlines := Wavefront.exists_linesWith_iff hs.places
  refine ⟨Options.exists_preset hs.preset, ?_, hs.limit, hs.places, ?_, ?_, hlines, ?_⟩
  · intro d hd
    obtain ⟨e, -, rfl⟩ := List.mem_map.mp hd
    exact ⟨e.1, e.2, Value.symbol?_toString e.1, rfl⟩
  · intro options
    exact ⟨_, Plant.create_of_valid hreset options s.plantLimit⟩
  · intro options deeds queue
    have hsturdy := ((Garden.sturdy_create hreset options s.fitting_plantLimit).actAll
      deeds).setQueue queue
    obtain ⟨report, hstep⟩ := hsturdy.step_eq
    exact ⟨report, congrArg Outcome.answer hstep⟩
  · intro hfew t name
    have hplaces := hs.places
    exact (hlines t name).mpr (Wavefront.writable_of_le (by omega))

theorem loaded_settings_serve_furnished :
    ∃ s, ((Session.fresh.performAll []).settings Session.furnished).answer = .ok s
      ∧ s.preset = "plant" ∧ s.limit = some 5000000 ∧ s.places = 6
      ∧ (∃ o, Options.preset (.text s.preset) = .ok o)
      ∧ (∀ options deeds queue, ∃ report,
          ({ (Garden.create (declare s.tokens) options s.plantLimit).actAll deeds with
            queue := queue } : Garden).step.answer = .ok report)
      ∧ ∀ t name, ∃ ls, Wavefront.linesWith t (.int s.places) name = .ok ls := by
  have hfacts : ((Session.fresh.performAll []).settings Session.furnished).answer.toOption.map
      (fun s => (s.preset, s.limit, s.places)) = some ("plant", some 5000000, 6) := by
    decide +kernel
  obtain ⟨s, hs, hfacts⟩ := Option.map_eq_some_iff.mp hfacts
  obtain ⟨hpreset, hlimit, hplaces⟩ := by simpa only [Prod.mk.injEq] using hfacts
  have hanswer := toOption_eq_some_iff.mp hs
  obtain ⟨hknown, -, -, -, -, hsteps, -, hlines⟩ := loaded_settings_serve hanswer
  have hfew : 1024 + s.places ≤ Decimal.maxRealDigits := by
    rw [hplaces]
    decide
  exact ⟨s, hanswer, hpreset, hlimit, hplaces, hknown, hsteps, hlines hfew⟩

def lavish : Surroundings :=
  (Session.bare.store (.ofText ".arbor/config.yaml") (.parsed (.mapping
    [("export", .mapping [("obj", .mapping [("decimals", .int 2147483648)])])]))).state

theorem too_many_places_are_loaded :
    ∃ s, (Session.fresh.settings lavish).answer = .ok s
      ∧ Wavefront.linesWith (.ofItems [.vertex ⟨0, 0, 0⟩]) (.int s.places) none
        = .error (.tooManyPlaces 2147483648) := by
  have hplaces : (Session.fresh.settings lavish).answer.toOption.map Settings.places
      = some 2147483648 := by
    decide +kernel
  obtain ⟨s, hs, hplaces⟩ := Option.map_eq_some_iff.mp hplaces
  refine ⟨s, toOption_eq_some_iff.mp hs, ?_⟩
  rw [hplaces]
  rfl

end Settings

end LSystem
