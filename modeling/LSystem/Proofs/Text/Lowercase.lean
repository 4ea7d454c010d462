import LSystem.Proofs.Text.Blank
import LSystem.Text.Lowercase

namespace LSystem.Text

def blankStretches : List (Nat × Nat) :=
  [(9, 13), (0x1C, 0x20), (0x85, 0x85), (0xA0, 0xA0), (0x1680, 0x1680), (0x2000, 0x200A),
    (0x2028, 0x2029), (0x202F, 0x202F), (0x205F, 0x205F), (0x3000, 0x3000)]

def EndsVisibly (cs : List Char) : Prop :=
  ∀ c ∈ cs.getLast?, isBlank c = false

variable {c d : Char} {cs u v before : List Char}

theorem exists_stretch_of_isBlank (h : isBlank c = true) :
    ∃ s ∈ blankStretches, s.1 ≤ c.toNat ∧ c.toNat ≤ s.2 := by
  simp only [isBlank, Bool.or_eq_true, Bool.and_eq_true, decide_eq_true_eq, beq_iff_eq] at h
  simp only [blankStretches, List.exists_mem_cons_iff, List.not_mem_nil, false_and, exists_false]
  omega

theorem capitalRuns_clear : ∀ r ∈ capitalRuns, ∀ s ∈ blankStretches,
    r.last + r.shift < s.1 ∨ s.2 < r.first + r.shift := by
  decide +kernel

theorem toNat_ofNat_cases (n : Nat) : (Char.ofNat n).toNat = n ∨ (Char.ofNat n).toNat = 0 := by
  by_cases h : n.isValidChar
  · left
    rw [Char.ofNat, dif_pos h]
    rfl
  · right
    rw [Char.ofNat, dif_neg h]
    rfl

theorem isBlank_ofNat_of_capitalRun? {r : CapitalRun} (h : capitalRun? c = some r) :
    isBlank (Char.ofNat (c.toNat + r.shift).toNat) = false := by
  have hmem := Array.mem_of_find?_eq_some h
  have hwithin := Array.find?_some h
  simp only [Bool.and_eq_true, decide_eq_true_eq] at hwithin
  refine Bool.eq_false_iff.mpr fun hblank => ?_
  obtain ⟨s, hs, hfirst, hlast⟩ := exists_stretch_of_isBlank hblank
  have hclear := capitalRuns_clear r hmem s hs
  have hpos : ∀ s ∈ blankStretches, 0 < s.1 := by decide
  have hzero := hpos s hs
  rcases toNat_ofNat_cases (c.toNat + r.shift).toNat with heq | heq <;> omega

theorem isBlank_toLower_of_ascii (h : c.toNat < 0x80) (hc : isBlank c = false) :
    isBlank c.toLower = false := by
  have hall : ∀ n < 0x80, isBlank (Char.ofNat n) = false →
      isBlank (Char.ofNat n).toLower = false := by decide
  have hletter := hall c.toNat h
  rw [Char.ofNat_toNat] at hletter
  exact hletter hc

theorem isBlank_of_mem_lowerChar (hc : isBlank c = false) (hd : d ∈ lowerChar c) :
    isBlank d = false := by
  unfold lowerChar at hd
  split at hd
  · next hascii =>
    rw [List.mem_singleton.mp hd]
    exact isBlank_toLower_of_ascii hascii hc
  · split at hd
    · -- the dotted capital I
      rcases List.mem_cons.mp hd with rfl | hd
      · decide
      · rw [List.mem_singleton.mp hd]
        decide
    · split at hd
      · next r hr =>
        rw [List.mem_singleton.mp hd]
        exact isBlank_ofNat_of_capitalRun? hr
      · rw [List.mem_singleton.mp hd]
        exact hc

theorem lowerChar_ne_nil (c : Char) : lowerChar c ≠ [] := by
  unfold lowerChar
  split
  · exact List.cons_ne_nil _ _
  · split
    · exact List.cons_ne_nil _ _
    · split <;> exact List.cons_ne_nil _ _

theorem lowerFrom_ne_nil (h : cs ≠ []) (before : List Char) : lowerFrom before cs ≠ [] := by
  cases cs with
  | nil => exact absurd rfl h
  | cons c rest =>
    rw [lowerFrom]
    split
    · exact List.cons_ne_nil _ _
    · exact List.append_ne_nil_of_left_ne_nil (lowerChar_ne_nil c) _

theorem endsVisibly_of_forall (h : ∀ c ∈ cs, isBlank c = false) : EndsVisibly cs :=
  fun c hc => h c (List.mem_of_getLast? hc)

theorem endsVisibly_append (h : v ≠ []) : EndsVisibly (u ++ v) ↔ EndsVisibly v := by
  rw [EndsVisibly, List.getLast?_append_of_ne_nil _ h, EndsVisibly]

theorem EndsVisibly.eq_nil_of_blank (h : EndsVisibly (u ++ v)) (hv : Blank v) : v = [] := by
  by_contra hne
  have hlast := (endsVisibly_append hne).mp h (v.getLast hne) (List.getLast?_eq_some_getLast hne)
  rw [hv _ (List.getLast_mem hne)] at hlast
  cases hlast

theorem endsVisibly_trim (cs : List Char) : EndsVisibly (trim cs) := by
  intro c hc
  have hne : trim cs ≠ [] := List.ne_nil_of_mem (List.mem_of_getLast? hc)
  have hlast : ¬isBlank ((trim cs).getLast hne) = true :=
    List.rdropWhile_last_not isBlank (cs.dropWhile isBlank) hne
  have heq : (trim cs).getLast hne = c :=
    Option.some.inj ((List.getLast?_eq_some_getLast hne).symm.trans hc)
  rw [heq] at hlast
  exact Bool.eq_false_iff.mpr hlast

theorem EndsVisibly.lowerFrom (h : EndsVisibly cs) (before : List Char) :
    EndsVisibly (lowerFrom before cs) := by
  induction cs generalizing before with
  | nil => exact h
  | cons c rest ih =>
    rw [Text.lowerFrom]
    cases rest with
    | nil =>
      have hc : isBlank c = false := h c rfl
      rw [Text.lowerFrom, List.append_nil]
      refine endsVisibly_of_forall fun d hd => ?_
      split at hd
      · rw [List.mem_singleton.mp hd]
        decide
      · exact isBlank_of_mem_lowerChar hc hd
    | cons e rest =>
      have hrest : EndsVisibly (e :: rest) :=
        (endsVisibly_append (u := [c]) (List.cons_ne_nil e rest)).mp h
      exact (endsVisibly_append (lowerFrom_ne_nil (List.cons_ne_nil e rest) _)).mpr (ih hrest _)

theorem endsVisibly_lower_trim (cs : List Char) : EndsVisibly (lower (trim cs)) :=
  (endsVisibly_trim cs).lowerFrom []

end LSystem.Text
