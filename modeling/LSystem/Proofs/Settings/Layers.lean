import LSystem.Proofs.Dictionary
import LSystem.Proofs.Settings.Runs

namespace LSystem

namespace Dictionary

variable {κ ν : Type} [DecidableEq κ]

def last? (d : Dictionary κ ν) (k : κ) : Option ν :=
  get? d.reverse k

theorem last?_put_self (d : Dictionary κ ν) (k : κ) (v : ν) : (d.put k v).last? k = some v := by
  simp [last?, put, get?_cons]

theorem last?_put_of_ne (d : Dictionary κ ν) {k l : κ} (v : ν) (h : l ≠ k) :
    (d.put k v).last? l = d.last? l := by
  have hreverse : (d.put k v).reverse = (k, v) :: erase d.reverse k := by
    simp [put, erase, List.filter_reverse]
  rw [last?, hreverse, get?_cons, if_neg (Ne.symm h), get?_erase_of_ne _ h, last?]

theorem last?_cons (e : κ × ν) (d : Dictionary κ ν) (k : κ) :
    last? (e :: d) k = (last? d k).or (if e.1 = k then some e.2 else none) := by
  rw [last?, List.reverse_cons, get?_append, get?_cons, get?_nil]
  rfl

theorem last?_override (d e : Dictionary κ ν) (k : κ) :
    (d.override e).last? k = (e.last? k).or (d.last? k) := by
  induction e generalizing d with
  | nil => rfl
  | cons p e ih =>
    change ((d.put p.1 p.2).override e).last? k = _
    rw [ih, last?_cons, Option.or_assoc]
    congr 1
    by_cases hk : p.1 = k
    · subst hk
      rw [last?_put_self, if_pos rfl]
      rfl
    · rw [last?_put_of_ne d p.2 (Ne.symm hk), if_neg hk]
      rfl

end Dictionary

namespace Surroundings

theorem expandVariables_setTree (w : Surroundings) (t : FileTree) (fuel : Nat) (cs : List Char) :
    ({ w with tree := t } : Surroundings).expandVariables fuel cs = w.expandVariables fuel cs := by
  induction fuel generalizing cs with
  | zero => rfl
  | succ fuel ih =>
    unfold expandVariables
    split
    · rfl
    · rfl
    · next rest hfuel =>
      obtain rfl := Nat.succ.inj hfuel
      simp only [ih]
    · next c rest _ hfuel =>
      obtain rfl := Nat.succ.inj hfuel
      simp only [ih]

theorem expand_setTree (w : Surroundings) (t : FileTree) :
    ({ w with tree := t } : Surroundings).expand = w.expand := by
  funext s
  simp only [expand, expandVariables_setTree]
  rfl

end Surroundings

namespace Settings

variable {w : Surroundings} {t : FileTree} {found named source : Option Path} {p : Path}
  {layer below above : Layer}

theorem ofLayer_congr (w : Surroundings) (t : FileTree) (source : Option Path)
    {layer layer' : Layer} (h : ∀ key, layer.get? key = layer'.get? key) :
    ofLayer { w with tree := t } source layer = ofLayer w source layer' := by
  have hunder : under layer = under layer' := by
    funext key
    rw [under, h, under]
  have hsection : sectionOf layer = sectionOf layer' := by
    funext key
    rw [sectionOf, hunder, sectionOf]
  rw [ofLayer, ofLayer, hunder, hsection, w.expand_setTree]

def attributed (source : Option Path) (s : Settings) : Settings :=
  { s with source := source }

theorem ofLayer_source (w : Surroundings) (source source' : Option Path) (layer : Layer) :
    ofLayer w source layer = (ofLayer w source' layer).map (attributed source) := by
  unfold ofLayer
  refine bind_eq_map_bind fun version => guard_eq_map_guard ?_
  refine bind_eq_map_bind fun paths => guard_eq_map_guard ?_
  refine bind_eq_map_bind fun directory => ?_
  refine bind_eq_map_bind fun plant => guard_eq_map_guard ?_
  refine bind_eq_map_bind fun tokens => ?_
  refine bind_eq_map_bind fun limits => ?_
  refine bind_eq_map_bind fun limit => ?_
  cases limit with
  | none =>
    refine bind_eq_map_bind fun entries => ?_
    refine bind_eq_map_bind fun obj => ?_
    refine bind_eq_map_bind fun places => guard_eq_map_guard ?_
    rfl
  | some n =>
    refine guard_eq_map_guard ?_
    refine bind_eq_map_bind fun entries => ?_
    refine bind_eq_map_bind fun obj => ?_
    refine bind_eq_map_bind fun places => guard_eq_map_guard ?_
    rfl

/-- A document that there may be, and the layer in it: that of no document is empty. -/
inductive Holds (w : Surroundings) : Option Path → Layer → Prop where
  | absent : Holds w none []
  | empty {p : Path} : w.find p = .ok (.file (.parsed .null)) → Holds w (some p) []
  | mapping {p : Path} {layer : Layer} :
    w.find p = .ok (.file (.parsed (.mapping layer))) → Holds w (some p) layer

theorem Holds.isFile (h : Holds w (some p) layer) : w.isFile p = .ok true := by
  cases h with
  | empty hfind => rw [Surroundings.isFile, hfind]
  | mapping hfind => rw [Surroundings.isFile, hfind]

theorem Holds.optionalLayer (h : Holds w named layer) : optionalLayer w named = .ok layer := by
  cases h with
  | absent => rfl
  | empty hfind => rw [Settings.optionalLayer, readLayer, hfind]
  | mapping hfind => rw [Settings.optionalLayer, readLayer, hfind]

/-- The documents that settings are read from hold layers: `below` the one that is found, `above`
the one that is named. -/
structure Reads (w : Surroundings) (found named : Option Path) (below above : Layer) : Prop where
  discover : discover w = .ok found
  found : Holds w found below
  named : Holds w named above

theorem load_none (w : Surroundings) : load w none = layered w none := rfl

theorem load_some (w : Surroundings) (p : Path) : load w (some p) = match w.isFile p with
    | .ok true => layered w (some p)
    | .ok false => .error (.missing p)
    | .error _ => .error (.pathTooLong p) := by
  unfold load
  dsimp only
  cases w.isFile p with
  | error fault => rfl
  | ok there => cases there <;> rfl

theorem Reads.load (h : Reads w found named below above) :
    load w named = ofLayer w (named.or found) ((standard.override below).override above) := by
  have hlayered : layered w named
      = ofLayer w (named.or found) ((standard.override below).override above) := by
    rw [layered, h.discover, h.named.optionalLayer]
    change (Settings.optionalLayer w found >>= _) = _
    rw [h.found.optionalLayer]
    rfl
  cases named with
  | none => rw [load_none, hlayered]
  | some p => rw [load_some, h.named.isFile, hlayered]

def said (below above : Layer) (key : String) : Option Value :=
  (above.last? key).or ((below.last? key).or (standard.get? key))

theorem get?_layers (below above : Layer) (key : String) :
    ((standard.override below).override above).get? key = said below above key := by
  rw [Dictionary.get?_override, Dictionary.get?_override]
  rfl

theorem said_override (below above : Layer) (key : String) :
    said [] (below.override above) key = said below above key := by
  rw [said, said, Dictionary.last?_override, Option.or_assoc]
  rfl

theorem said_congr {below' : Layer}
    (h : ∀ key, above.last? key = none → below'.last? key = below.last? key) (key : String) :
    said below' above key = said below above key := by
  rw [said, said]
  cases habove : above.last? key with
  | some v => rfl
  | none => rw [h key habove]

theorem load_congr {found' named' : Option Path} {below' above' : Layer}
    (h : Reads w found named below above)
    (h' : Reads { w with tree := t } found' named' below' above')
    (hsaid : ∀ key, said below' above' key = said below above key) :
    Settings.load w named
      = (Settings.load { w with tree := t } named').map (attributed (named.or found)) := by
  rw [h.load, h'.load, ofLayer_congr w t, ← ofLayer_source]
  intro key
  rw [get?_layers, get?_layers, hsaid]

section Home

def workingDocument (w : Surroundings) : Path :=
  w.here.join (.ofText ".arbor/config.yaml")

theorem discover_of_isFile (h : w.isFile (workingDocument w) = .ok true) :
    discover w = ((w.expandHome (.ofText "~")).mapError .home).map
      fun _ => some (workingDocument w) := by
  rw [workingDocument] at h
  rw [discover, candidates]
  cases w.expandHome (.ofText "~") with
  | error cause => rfl
  | ok home =>
    change firstFile w (_ :: _) = _
    rw [firstFile, h]
    rfl

theorem isFile_congr (h : ({ w with tree := t } : Surroundings).find p = w.find p) :
    ({ w with tree := t } : Surroundings).isFile p = w.isFile p := by
  rw [Surroundings.isFile, h, Surroundings.isFile]

theorem readLayer_congr (h : ({ w with tree := t } : Surroundings).find p = w.find p) :
    readLayer { w with tree := t } p = readLayer w p := by
  rw [readLayer, h, readLayer]

theorem load_setTree (hworking : w.isFile (workingDocument w) = .ok true)
    (hfound : ({ w with tree := t } : Surroundings).find (workingDocument w)
      = w.find (workingDocument w))
    (hnamed : ∀ p, named = some p → ({ w with tree := t } : Surroundings).find p = w.find p) :
    load { w with tree := t } named = load w named := by
  have hdiscover := discover_of_isFile hworking
  have hsame : discover { w with tree := t } = discover w :=
    (discover_of_isFile ((isFile_congr hfound).trans hworking)).trans hdiscover.symm
  have hlayered (habove : optionalLayer { w with tree := t } named = optionalLayer w named) :
      layered { w with tree := t } named = layered w named := by
    have hbelow : optionalLayer { w with tree := t } (some (workingDocument w))
        = optionalLayer w (some (workingDocument w)) := readLayer_congr hfound
    rw [layered, layered, hsame, hdiscover]
    cases w.expandHome (.ofText "~") with
    | error cause => rfl
    | ok home =>
      change (optionalLayer _ (some (workingDocument w)) >>= _)
        = (optionalLayer w (some (workingDocument w)) >>= _)
      rw [hbelow, habove]
      simp only [ofLayer_congr w t _ fun _ => rfl]
  cases named with
  | none => exact hlayered rfl
  | some p =>
    have hthere := hnamed p rfl
    rw [load_some, load_some, isFile_congr hthere, hlayered (readLayer_congr hthere)]

end Home

theorem layers_make_one_document (w : Surroundings) (t : FileTree) (named : Option Path) :
    (∀ found below above, Reads w found named below above →
        ∃ layer : Layer, (∀ key, layer.get? key = said below above key)
          ∧ ((⟨named, none⟩ : Session).settings w).answer = ofLayer w (named.or found) layer)
      ∧ (∀ found found' below above named', Reads w found named below above →
          Reads { w with tree := t } found' named' [] (below.override above) →
          ((⟨named, none⟩ : Session).settings w).answer
            = ((⟨named', none⟩ : Session).settings { w with tree := t }).answer.map
                (attributed (named.or found)))
      ∧ (∀ found found' below below' above named', Reads w found named below above →
          Reads { w with tree := t } found' named' below' above →
          (∀ key, above.last? key = none → below'.last? key = below.last? key) →
          ((⟨named, none⟩ : Session).settings w).answer
            = ((⟨named', none⟩ : Session).settings { w with tree := t }).answer.map
                (attributed (named.or found)))
      ∧ (w.isFile (workingDocument w) = .ok true →
          ({ w with tree := t } : Surroundings).find (workingDocument w)
            = w.find (workingDocument w) →
          (∀ p, named = some p → ({ w with tree := t } : Surroundings).find p = w.find p) →
          ((⟨named, none⟩ : Session).settings { w with tree := t }).answer
            = ((⟨named, none⟩ : Session).settings w).answer) := by
  simp only [Session.answer_settings]
  refine ⟨?_, ?_, ?_, ?_⟩
  · intro found below above h
    exact ⟨_, get?_layers below above, h.load⟩
  · intro found found' below above named' h h'
    exact load_congr h h' (said_override below above)
  · intro found found' below below' above named' h h' hagree
    exact load_congr h h' (said_congr hagree)
  · intro hworking hfound hnamed
    exact load_setTree hworking hfound hnamed

def foundLayer : Layer :=
  [("plant", .mapping [("preset", .text "nope")]), ("tokens", .text "FX"),
    ("limits", .mapping [("max_sequence_length", .int 7)])]

def mendedLayer : Layer :=
  [("limits", .mapping [("max_sequence_length", .int 7)])]

def namedLayer : Layer :=
  [("tokens", .null), ("plant", .mapping [])]

def ownDocument : Path := .ofText "own.yaml"

def directories : List Place :=
  [["work"], ["work", ".arbor"], ["home"], ["home", "arbor"], ["home", "arbor", ".config"],
    ["home", "arbor", ".config", "arbor"]]

def treeWith (documents : List (Place × Value)) : FileTree :=
  ⟨directories.map (fun place => (place, .directory))
    ++ documents.map fun d => (d.1, .file (.parsed d.2))⟩

def strewn : Surroundings :=
  { Session.bare with tree := treeWith [(["work", ".arbor", "config.yaml"], .mapping foundLayer),
    (["home", "arbor", ".config", "arbor", "config.yaml"], .int 3),
    (["work", "own.yaml"], .mapping namedLayer)] }

def gathered : FileTree :=
  treeWith [(["work", "own.yaml"], .mapping (foundLayer.override namedLayer))]

def mended : FileTree :=
  treeWith [(["work", ".arbor", "config.yaml"], .mapping mendedLayer),
    (["work", "own.yaml"], .mapping namedLayer)]

def homeless : FileTree :=
  treeWith [(["work", ".arbor", "config.yaml"], .mapping foundLayer),
    (["work", "own.yaml"], .mapping namedLayer)]

theorem find_foundLayer : strewn.find (workingDocument strewn)
    = .ok (.file (.parsed (.mapping foundLayer))) := by
  rfl

theorem find_namedLayer : strewn.find ownDocument
    = .ok (.file (.parsed (.mapping namedLayer))) := by
  rfl

theorem reads_strewn : Reads strewn (some (workingDocument strewn)) (some ownDocument) foundLayer
    namedLayer where
  discover := discover_of_isFile (by rw [Surroundings.isFile, find_foundLayer])
  found := .mapping find_foundLayer
  named := .mapping find_namedLayer

theorem reads_gathered : Reads { strewn with tree := gathered } none (some ownDocument) []
    (foundLayer.override namedLayer) where
  discover := rfl
  found := .absent
  named := .mapping rfl

theorem reads_mended : Reads { strewn with tree := mended } (some (workingDocument strewn))
    (some ownDocument) mendedLayer namedLayer where
  discover := rfl
  found := .mapping rfl
  named := .mapping rfl

theorem layers_make_one_document_strewn :
    Reads strewn (some (workingDocument strewn)) (some ownDocument) foundLayer namedLayer
      ∧ Reads { strewn with tree := gathered } none (some ownDocument) []
          (foundLayer.override namedLayer)
      ∧ ((⟨some ownDocument, none⟩ : Session).settings strewn).answer
          = ((⟨some ownDocument, none⟩ : Session).settings
              { strewn with tree := gathered }).answer.map (attributed (some ownDocument))
      ∧ ((⟨some ownDocument, none⟩ : Session).settings strewn).answer
          = ((⟨some ownDocument, none⟩ : Session).settings
              { strewn with tree := mended }).answer.map (attributed (some ownDocument))
      ∧ ((⟨some ownDocument, none⟩ : Session).settings { strewn with tree := homeless }).answer
          = ((⟨some ownDocument, none⟩ : Session).settings strewn).answer
      ∧ ((⟨some ownDocument, none⟩ : Session).settings strewn).answer.toOption.map
          (fun s => (s.preset, s.limit)) = some ("bush", some 7) := by
  obtain ⟨-, hone, -, -⟩ := layers_make_one_document strewn gathered (some ownDocument)
  obtain ⟨-, -, hoverridden, -⟩ := layers_make_one_document strewn mended (some ownDocument)
  obtain ⟨-, -, -, hhome⟩ := layers_make_one_document strewn homeless (some ownDocument)
  have hagree (key : String) (hkey : namedLayer.last? key = none) :
      mendedLayer.last? key = foundLayer.last? key := by
    simp only [namedLayer, mendedLayer, foundLayer, Dictionary.last?_cons] at hkey ⊢
    simp at hkey
    simp [hkey]
  refine ⟨reads_strewn, reads_gathered, hone _ _ _ _ _ reads_strewn reads_gathered,
    hoverridden _ _ _ _ _ _ reads_strewn reads_mended hagree, ?_, ?_⟩
  · have hfound : ({ strewn with tree := homeless } : Surroundings).find (workingDocument strewn)
        = .ok (.file (.parsed (.mapping foundLayer))) := rfl
    have hnamed : ({ strewn with tree := homeless } : Surroundings).find ownDocument
        = .ok (.file (.parsed (.mapping namedLayer))) := rfl
    refine hhome ?_ (hfound.trans find_foundLayer.symm) ?_
    · rw [Surroundings.isFile, find_foundLayer]
    · rintro p ⟨⟩
      exact hnamed.trans find_namedLayer.symm
  · decide +kernel

end Settings

end LSystem
