import LSystem.Text.Blank
import Mathlib.Data.List.DropRight

namespace LSystem.Text

def Blank (cs : List Char) : Prop :=
  ∀ c ∈ cs, isBlank c = true

-- by name, as for one line: the search for an instance could go through all characters
instance (cs : List Char) : Decidable (Blank cs) :=
  List.decidableBAll (fun c => isBlank c = true) cs

variable {cs before after : List Char} {c : Char}

theorem blank_nil : Blank [] :=
  fun _ hc => absurd hc List.not_mem_nil

@[simp] theorem blank_cons : Blank (c :: cs) ↔ isBlank c = true ∧ Blank cs :=
  List.forall_mem_cons

@[simp] theorem blank_append : Blank (before ++ after) ↔ Blank before ∧ Blank after :=
  List.forall_mem_append

theorem Blank.not_mem (h : Blank cs) (hc : isBlank c = false) : c ∉ cs := by
  intro hmem
  rw [h c hmem] at hc
  cases hc

theorem eq_of_blank_append_cons {before' rest rest' : List Char} {c' : Char} (h : Blank before)
    (h' : Blank before') (hc : isBlank c = false) (hc' : isBlank c' = false)
    (heq : before ++ c :: rest = before' ++ c' :: rest') :
    before = before' ∧ c = c' ∧ rest = rest' := by
  induction before generalizing before' with
  | nil =>
    cases before' with
    | nil =>
      obtain ⟨hhead, htail⟩ := List.cons.inj heq
      exact ⟨rfl, hhead, htail⟩
    | cons d before' =>
      rw [(List.cons.inj heq).1, (blank_cons.mp h').1] at hc
      cases hc
  | cons d before ih =>
    cases before' with
    | nil =>
      rw [← (List.cons.inj heq).1, (blank_cons.mp h).1] at hc'
      cases hc'
    | cons d' before' =>
      obtain ⟨hhead, htail⟩ := List.cons.inj heq
      obtain ⟨hbefore, hsame⟩ := ih (blank_cons.mp h).2 (blank_cons.mp h').2 htail
      exact ⟨by rw [hhead, hbefore], hsame⟩

theorem trim_eq_rdropWhile (cs : List Char) :
    trim cs = (cs.dropWhile isBlank).rdropWhile isBlank :=
  rfl

theorem trim_eq_nil_iff : trim cs = [] ↔ Blank cs := by
  rw [trim_eq_rdropWhile, List.rdropWhile_eq_nil_iff]
  constructor
  · intro h c hc
    rw [← List.takeWhile_append_dropWhile (p := isBlank) (l := cs)] at hc
    rcases List.mem_append.mp hc with hc | hc
    · exact List.mem_takeWhile_imp hc
    · exact h c hc
  · intro h c hc
    exact h c ((List.dropWhile_sublist isBlank).subset hc)

theorem isBlank_of_trim_eq_singleton (h : trim cs = [c]) : isBlank c = false := by
  have hne : (cs.dropWhile isBlank).rdropWhile isBlank ≠ [] := by
    rw [← trim_eq_rdropWhile, h]
    exact List.cons_ne_nil c []
  have hlast := List.rdropWhile_last_not isBlank (cs.dropWhile isBlank) hne
  simp only [← trim_eq_rdropWhile, h, List.getLast_singleton] at hlast
  exact Bool.eq_false_iff.mpr hlast

theorem exists_eq_append_trim (cs : List Char) :
    ∃ before after, cs = before ++ trim cs ++ after ∧ Blank before ∧ Blank after := by
  refine ⟨cs.takeWhile isBlank, (cs.dropWhile isBlank).rtakeWhile isBlank, ?_, ?_, ?_⟩
  · rw [List.append_assoc, trim_eq_rdropWhile, List.rdropWhile_append_rtakeWhile,
      List.takeWhile_append_dropWhile]
  · exact fun c hc => List.mem_takeWhile_imp hc
  · exact fun c hc => List.mem_rtakeWhile_imp hc

theorem trim_blank_append (h : Blank before) : trim (before ++ cs) = trim cs := by
  rw [trim_eq_rdropWhile, trim_eq_rdropWhile, List.dropWhile_append_of_pos h]

theorem trim_append_blank (h : Blank after) : trim (cs ++ after) = trim cs := by
  have hreverse : ∀ c ∈ after.reverse, isBlank c = true := fun c hc => h c (List.mem_reverse.mp hc)
  cases hcs : cs.dropWhile isBlank with
  | nil =>
    have hblank : Blank cs := List.dropWhile_eq_nil_iff.mp hcs
    rw [trim_eq_nil_iff.mpr hblank, trim_eq_nil_iff, blank_append]
    exact ⟨hblank, h⟩
  | cons c rest =>
    -- what is dropped in front ends before `after` begins
    have hfront : (cs ++ after).dropWhile isBlank = cs.dropWhile isBlank ++ after := by
      rw [List.dropWhile_append, hcs]
      rfl
    rw [trim_eq_rdropWhile, trim_eq_rdropWhile, hfront, List.rdropWhile, List.reverse_append,
      List.dropWhile_append_of_pos hreverse]
    rfl

theorem trim_pad (hb : Blank before) (ha : Blank after) :
    trim (before ++ cs ++ after) = trim cs := by
  rw [trim_append_blank ha, trim_blank_append hb]

end LSystem.Text
