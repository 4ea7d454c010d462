import LSystem.Text.Lines

namespace LSystem.Text

def OneLine (cs : List Char) : Prop :=
  ∀ c ∈ cs, endsLine c = false

-- by name: there are finitely many characters, and the search could go through all of them
instance (cs : List Char) : Decidable (OneLine cs) :=
  List.decidableBAll (fun c => endsLine c = false) cs

def endLines (ls : List (List Char)) : List Char :=
  ls.flatMap fun l => l ++ ['\n']

variable {cs start rest : List Char}

theorem oneLine_nil : OneLine [] :=
  fun _ hc => absurd hc List.not_mem_nil

@[simp] theorem oneLine_append {cs ds : List Char} :
    OneLine (cs ++ ds) ↔ OneLine cs ∧ OneLine ds := by
  simp only [OneLine, List.mem_append, or_imp, forall_and]

theorem OneLine.intercalate {sep : List Char} {ls : List (List Char)} (hsep : OneLine sep)
    (h : ∀ l ∈ ls, OneLine l) : OneLine (sep.intercalate ls) := by
  induction ls with
  | nil => exact oneLine_nil
  | cons l ls ih =>
    obtain ⟨hl, hls⟩ := List.forall_mem_cons.mp h
    cases ls with
    | nil => simpa using hl
    | cons l' ls =>
      rw [List.intercalate_cons_cons, oneLine_append, oneLine_append]
      exact ⟨⟨hl, hsep⟩, ih hls⟩

theorem endsLine_of_isDigit {c : Char} (h : c.isDigit = true) : endsLine c = false := by
  have hbounds : 48 ≤ c.toNat ∧ c.toNat ≤ 57 := by
    simpa [Char.isDigit, UInt32.le_iff_toNat_le] using h
  simp only [endsLine, Bool.or_eq_false_iff, Bool.and_eq_false_iff, decide_eq_false_iff_not,
    beq_eq_false_iff_ne]
  omega

theorem oneLine_toString (n : Nat) : OneLine (toString n).toList := by
  intro c hc
  have hdigit : c ∈ Nat.toDigits 10 n := by simpa using hc
  exact endsLine_of_isDigit (Nat.isDigit_of_mem_toDigits (by decide) (by decide) hdigit)

theorem linesFrom_cons {c : Char} (h : endsLine c = false) :
    linesFrom start (c :: rest) = linesFrom (c :: start) rest := by
  rw [linesFrom.eq_3]
  · simp [h]
  · rintro - rfl
    cases h

theorem linesFrom_append (h : OneLine cs) :
    linesFrom start (cs ++ rest) = linesFrom (cs.reverse ++ start) rest := by
  induction cs generalizing start with
  | nil => rfl
  | cons c cs ih =>
    have hc : endsLine c = false := h c (List.mem_cons_self ..)
    have hcs : OneLine cs := fun x hx => h x (List.mem_cons_of_mem c hx)
    rw [List.cons_append, linesFrom_cons hc, ih hcs, List.reverse_cons, List.append_assoc]
    rfl

theorem lines_append_lineFeed (h : OneLine cs) (rest : List Char) :
    lines (cs ++ '\n' :: rest) = cs :: lines rest := by
  rw [lines, linesFrom_append h]
  change (cs.reverse ++ []).reverse :: lines rest = cs :: lines rest
  rw [List.append_nil, List.reverse_reverse]

theorem lines_endLines {ls : List (List Char)} (h : ∀ l ∈ ls, OneLine l) :
    lines (endLines ls) = ls := by
  induction ls with
  | nil => rfl
  | cons l ls ih =>
    have hl : OneLine l := h l (List.mem_cons_self ..)
    have ih := ih fun x hx => h x (List.mem_cons_of_mem l hx)
    rw [endLines, List.flatMap_cons, List.append_assoc]
    change lines (l ++ '\n' :: endLines ls) = l :: ls
    rw [lines_append_lineFeed hl, ih]

theorem lines_of_oneLine (h : OneLine cs) : lines cs = if cs = [] then [] else [cs] := by
  have hlines : linesFrom [] (cs ++ []) = linesFrom (cs.reverse ++ []) [] := linesFrom_append h
  rw [List.append_nil, List.append_nil] at hlines
  rw [lines, hlines, linesFrom]
  simp

theorem filter_lines_intercalate {p : List Char → Bool} (hp : p [] = false)
    {ls : List (List Char)} (h : ∀ l ∈ ls, OneLine l) :
    (lines (['\n'].intercalate ls)).filter p = ls.filter p := by
  induction ls with
  | nil => rfl
  | cons l ls ih =>
    obtain ⟨hl, hls⟩ := List.forall_mem_cons.mp h
    cases ls with
    | nil =>
      rw [List.intercalate_singleton, lines_of_oneLine hl]
      split
      · next hempty => simp [hempty, hp]
      · rfl
    | cons l' ls =>
      rw [List.intercalate_cons_cons, List.append_assoc, List.singleton_append,
        lines_append_lineFeed hl, List.filter_cons, List.filter_cons, ih hls]

theorem oneLine_of_mem_linesFrom {l : List Char} (hstart : OneLine start.reverse)
    (h : l ∈ linesFrom start cs) : OneLine l := by
  fun_induction linesFrom start cs with
  | case1 => cases h
  | case2 start hne =>
    rw [List.mem_singleton.mp h]
    exact hstart
  | case3 start rest ih =>
    rcases List.mem_cons.mp h with rfl | h
    · exact hstart
    · exact ih oneLine_nil h
  | case4 start c rest hc hends ih =>
    rcases List.mem_cons.mp h with rfl | h
    · exact hstart
    · exact ih oneLine_nil h
  | case5 start c rest hc hends ih =>
    apply ih _ h
    rw [List.reverse_cons, oneLine_append]
    refine ⟨hstart, ?_⟩
    intro x hx
    rw [List.mem_singleton.mp hx]
    simpa using hends

theorem oneLine_of_mem_lines {l : List Char} (h : l ∈ lines cs) : OneLine l := by
  have hstart : OneLine ([] : List Char).reverse := oneLine_nil
  exact oneLine_of_mem_linesFrom hstart h

theorem intercalate_append_eq_endLines {ls : List (List Char)} (h : ls ≠ []) :
    ['\n'].intercalate ls ++ ['\n'] = endLines ls := by
  induction ls with
  | nil => exact absurd rfl h
  | cons l ls ih =>
    cases ls with
    | nil => simp [endLines]
    | cons l' ls =>
      rw [List.intercalate_cons_cons, List.append_assoc, ih (List.cons_ne_nil l' ls)]
      rfl

theorem lines_endLines_iff {ls : List (List Char)} :
    lines (endLines ls) = ls ↔ ∀ l ∈ ls, OneLine l := by
  constructor
  · intro h l hl
    rw [← h] at hl
    exact oneLine_of_mem_lines hl
  · exact lines_endLines

end LSystem.Text
