import LSystem.Outcome
import LSystem.Settings.Basic

namespace LSystem

structure Session where
  named : Option Path
  loaded : Option Settings

namespace Session

def fresh : Session := ⟨none, none⟩

def name (s : Session) (w : Surroundings) : Option String → Outcome Session SettingsError Unit
  | none => .ok fresh ()
  | some text =>
    match w.expandHome (.ofText text) with
    | .ok p => .ok ⟨some p, none⟩ ()
    | .error e => .fail s (.home e)

def settings (s : Session) (w : Surroundings) : Outcome Session SettingsError Settings :=
  match s.loaded with
  | some kept => .ok s kept
  | none =>
    match Settings.load w s.named with
    | .ok settings => .ok { s with loaded := some settings } settings
    | .error e => .fail s e

def outputDirectory (s : Session) (w : Surroundings) : Outcome Session SettingsError Path :=
  (s.settings w).map Settings.outputDirectory

end Session

end LSystem
