import LSystem.Proofs.Decimal.Fixed
import LSystem.Proofs.Outcome
import LSystem.Proofs.Text.Lines
import LSystem.Proofs.Wavefront.Chains
import LSystem.Wavefront.Export

namespace LSystem

open Text

namespace FileTree

variable {t t' : FileTree} {here place : Place} {e : FileEntry}

theorem directory_put {names : List String} {above : Place}
    (hplace : t.look? place ≠ some .directory) (h : t.directory here names = .ok above) :
    (t.put place e).directory here names = .ok above := by
  induction names generalizing here with
  | nil => exact h
  | cons name rest ih =>
    rw [directory] at h ⊢
    split at h
    · cases h
    · next hshort =>
      rw [if_neg hshort]
      dsimp only at h ⊢
      split at h
      · next hlook =>
        -- the way goes through directories, and there is none at `place`
        have hne : step here name ≠ place := by
          rintro rfl
          exact hplace hlook
        rw [look?_put_of_ne t hne, hlook]
        exact ih h
      · cases h
      · cases h

theorem locate_put {names : List String} {found : Place}
    (hplace : t.look? place ≠ some .directory) (h : t.locate here names = .ok found) :
    (t.put place e).locate here names = .ok found := by
  unfold locate at h ⊢
  cases hlast : names.getLast? with
  | none =>
    rw [hlast] at h
    exact h
  | some name =>
    rw [hlast] at h
    obtain ⟨above, habove, h⟩ := exists_of_bind_eq_ok h
    dsimp only
    rw [directory_put hplace habove]
    exact h

theorem find_of_look? {p : Path} (hplace : t.place here p = .ok place)
    (hlook : t.look? place = some e) : t.find here p = .ok e := by
  simp only [find, hplace, bind, Except.bind, hlook]
  rfl

theorem find_of_write {p : Path} {d : Document} (h : t.write here p d = .ok t') :
    t'.find here p = .ok (.file d) := by
  obtain ⟨place, hplace, h⟩ := exists_of_bind_eq_ok h
  obtain ⟨names, hnames, hlocate⟩ := exists_of_bind_eq_ok hplace
  split at h
  · cases h
  · next hfree =>
    obtain rfl := Except.ok.inj h
    have hroot : place ≠ [] := by
      rintro rfl
      exact hfree (t.look?_nil)
    have hagain : (t.put place (.file d)).place here p = .ok place := by
      rw [FileTree.place, hnames]
      exact locate_put hfree hlocate
    exact find_of_look? hagain (look?_put_self t hroot _)

end FileTree

namespace Decimal

theorem mem_placePoint {places n : Nat} {c : Char} (h : c ∈ placePoint places n) :
    c.isDigit = true ∨ c = '.' := by
  rw [placePoint_eq] at h
  split at h
  · exact Or.inl (isDigit_of_mem_padded h)
  · rcases List.mem_append.mp h with h | h
    · exact Or.inl (isDigit_of_mem_padded (List.mem_of_mem_take h))
    · rcases List.mem_cons.mp h with rfl | h
      · exact Or.inr rfl
      · exact Or.inl (isDigit_of_mem_padded (List.mem_of_mem_drop h))

theorem oneLine_placePoint (places n : Nat) : OneLine (placePoint places n) := by
  intro c hc
  rcases mem_placePoint hc with hdigit | rfl
  · exact endsLine_of_isDigit hdigit
  · rfl

theorem oneLine_fixed (places : Nat) (x : Float) : OneLine (fixed places x).toList := by
  rw [fixed]
  split
  · rw [String.toList_ofList, fixedFinite]
    split
    · exact List.forall_mem_cons.mpr ⟨rfl, oneLine_placePoint _ _⟩
    · exact oneLine_placePoint _ _
  · split <;> decide
  · decide

end Decimal

namespace Wavefront

open Trace

variable {t : Trace Float} {places : Nat}

section Lines

theorem oneLine_header (t : Trace Float) : ∀ line ∈ header t none, OneLine line.toList := by
  intro line hline
  have hcases : line ∈ ["# arbor turtle trace",
      "# points=" ++ toString t.pointCount ++ " runs=" ++ toString t.runCount] := hline
  rcases List.mem_cons.mp hcases with rfl | hcases
  · decide
  · rw [List.mem_singleton.mp hcases]
    simp only [String.toList_append, oneLine_append, oneLine_toString, and_true]
    decide

theorem oneLine_vertexLine (places : Nat) (p : Point Float) :
    OneLine (vertexLine places p).toList := by
  simp only [vertexLine, String.toList_append, oneLine_append, Decimal.oneLine_fixed, and_true]
  decide

theorem oneLine_polyline (c : List Nat) : OneLine (polyline c).toList := by
  rw [polyline, String.toList_append, oneLine_append, String.toList_intercalate]
  refine ⟨by decide, OneLine.intercalate (by decide) ?_⟩
  intro word hword
  simp only [List.map_map, List.mem_map, Function.comp_apply] at hword
  obtain ⟨n, -, rfl⟩ := hword
  exact oneLine_toString n

theorem oneLine_of_mem_lines (h : t.Contiguous) {line : String}
    (hline : line ∈ lines t places none) : OneLine line.toList := by
  rw [lines_eq h, List.mem_append, List.mem_append] at hline
  rcases hline with (hline | hline) | hline
  · exact oneLine_header t line hline
  · obtain ⟨p, -, rfl⟩ := List.mem_map.mp hline
    exact oneLine_vertexLine places p
  · obtain ⟨c, -, rfl⟩ := List.mem_map.mp hline
    exact oneLine_polyline c

theorem mem_lines_iff {name : Option String} {line : String} :
    line ∈ lines t places name ↔
      line ∈ lines t places none ∨ ∃ n, name = some n ∧ line = "o " ++ n := by
  have hheader : line ∈ header t name ↔
      line ∈ header t none ∨ ∃ n, name = some n ∧ line = "o " ++ n := by
    cases name with
    | none => simp
    | some n => simp [header, or_assoc]
  simp only [lines, List.mem_append, hheader, or_assoc, or_comm, or_left_comm]

def PlainName (name : Option String) : Prop :=
  ∀ n, name = some n → OneLine n.toList

theorem plainName_iff (h : t.Contiguous) (name : Option String) :
    PlainName name ↔ ∀ line ∈ lines t places name, OneLine line.toList := by
  constructor
  · intro hname line hline
    rcases mem_lines_iff.mp hline with hother | ⟨n, hn, rfl⟩
    · exact oneLine_of_mem_lines h hother
    · rw [String.toList_append, oneLine_append]
      exact ⟨by decide, hname n hn⟩
  · intro hlines n hn
    have hline := hlines ("o " ++ n) (mem_lines_iff.mpr (Or.inr ⟨n, hn, rfl⟩))
    rw [String.toList_append, oneLine_append] at hline
    exact hline.2

theorem toList_fileText {ls : List String} (h : ls ≠ []) :
    (fileText ls).toList = endLines (ls.map String.toList) := by
  have hne : ls.map String.toList ≠ [] := mt List.map_eq_nil_iff.mp h
  rw [← intercalate_append_eq_endLines hne, fileText, String.toList_append,
    String.toList_intercalate]
  rfl

end Lines

section Counts

def begins (front : String) (line : List Char) : Bool :=
  front.toList.isPrefixOf line

theorem begins_vertexLine (places : Nat) (p : Point Float) :
    begins "v " (vertexLine places p).toList = true
      ∧ begins "l " (vertexLine places p).toList = false := by
  simp [begins, vertexLine, List.isPrefixOf]

theorem begins_polyline (c : List Nat) :
    begins "v " (polyline c).toList = false ∧ begins "l " (polyline c).toList = true := by
  simp [begins, polyline, List.isPrefixOf]

theorem begins_header {name : Option String} {line : String} (h : line ∈ header t name) :
    begins "v " line.toList = false ∧ begins "l " line.toList = false := by
  have hcases : line ∈ ["# arbor turtle trace",
      "# points=" ++ toString t.pointCount ++ " runs=" ++ toString t.runCount]
        ++ (name.map fun n => "o " ++ n).toList := h
  simp only [List.cons_append, List.nil_append, List.mem_cons, Option.mem_toList,
    Option.map_eq_some_iff] at hcases
  rcases hcases with rfl | rfl | ⟨n, -, rfl⟩ <;> simp [begins, List.isPrefixOf]

theorem countP_lines (h : t.Contiguous) {name : Option String} {front : String}
    (hheader : ∀ line ∈ header t name, begins front line.toList = false) :
    ((lines t places name).map String.toList).countP (begins front)
      = (vertices t.items).countP (fun p => begins front (vertexLine places p).toList)
        + (t.bounds.filterMap chain?).countP (fun c => begins front (polyline c).toList) := by
  have hnone : (header t name).countP (begins front ∘ String.toList) = 0 := by
    apply List.countP_eq_zero.mpr
    intro line hline
    simp [hheader line hline]
  rw [lines_eq h, List.countP_map, List.countP_append, List.countP_append, hnone, List.countP_map,
    List.countP_map, Nat.zero_add]
  rfl

theorem countP_begins_vertex (h : t.Contiguous) (name : Option String) :
    ((lines t places name).map String.toList).countP (begins "v ") = t.pointCount := by
  rw [countP_lines h fun line hline => (begins_header hline).1, pointCount, ← Array.length_toList,
    h.toList_coords]
  simp [begins_vertexLine, begins_polyline]

theorem countP_begins_line (h : t.Contiguous) (name : Option String) :
    ((lines t places name).map String.toList).countP (begins "l ")
      = t.runs.countP fun run => 2 ≤ run.length := by
  have hlong : ∀ e ∈ t.bounds, (chain? e).isSome = true ↔ 2 ≤ (t.slice e.1 e.2).length := by
    intro e he
    obtain ⟨hfrom, hle, hto⟩ := h.le_of_mem_bounds e he
    obtain ⟨i, hi⟩ := Int.eq_ofNat_of_zero_le hfrom
    obtain ⟨j, hj⟩ := Int.eq_ofNat_of_zero_le (Int.le_trans hfrom hle)
    rw [chain?, hi, hj, t.slice_natCast (by omega) (by omega), List.length_take, List.length_drop,
      Array.length_toList]
    split
    · simp only [Option.isSome_none, Bool.false_eq_true, false_iff]
      omega
    · simp only [Option.isSome_some, true_iff]
      omega
  have hcount : (t.bounds.filterMap chain?).length
      = t.bounds.countP fun e => 2 ≤ (t.slice e.1 e.2).length := by
    rw [List.length_filterMap_eq_countP]
    apply List.countP_congr
    intro e he
    simpa using hlong e he
  rw [countP_lines h fun line hline => (begins_header hline).2, Trace.runs, List.countP_map]
  simp only [begins_vertexLine, begins_polyline]
  simp [hcount, Function.comp_def]

end Counts

theorem save_cases (tree : FileTree) (here : Place) (p : Path) (t : Trace Float)
    (places : Value) (name : Option String) :
    (∃ e, (save tree here p t places name).answer = .error (.file e)) ∨
      (∃ e, linesWith t places name = .error e ∧
        (save tree here p t places name).answer = .error (.object e)) ∨
      ∃ ls, linesWith t places name = .ok ls ∧
        (save tree here p t places name).answer = .ok (fileText ls) ∧
        (save tree here p t places name).state.find here p
          = .ok (.file (.parsed (.text (fileText ls)))) := by
  unfold save
  rcases tree.makePath here p.parent with ⟨made, e | _⟩
  · exact Or.inl ⟨e, rfl⟩
  · cases hlines : linesWith t places name with
    | error e => exact Or.inr (Or.inl ⟨e, rfl, rfl⟩)
    | ok ls =>
      dsimp only
      cases hwrite : made.write here p (.parsed (.text (fileText ls))) with
      | error e => exact Or.inl ⟨e, rfl⟩
      | ok written => exact Or.inr (Or.inr ⟨ls, rfl, rfl, FileTree.find_of_write hwrite⟩)

theorem lines_of_file (h : t.Contiguous) (places : Nat) (name : Option String) :
    ∃ ls, linesWith t (.int places) name = (fault? t places).elim (.ok ls) .error ∧
      (fault? t places = none ↔ Writable t places) ∧
      (∀ line ∈ ls, OneLine line.toList ∨ ∃ n, shownName name = some n ∧ line = "o " ++ n) ∧
      (PlainName (shownName name) ↔ ∀ line ∈ ls, OneLine line.toList) ∧
      (PlainName (shownName name) ↔ Text.lines (fileText ls).toList = ls.map String.toList) ∧
      (ls.map String.toList).countP (begins "v ") = t.pointCount ∧
      ((ls.map String.toList).countP (begins "l ") = t.runs.countP fun run => 2 ≤ run.length) ∧
      ∀ tree here p,
        (∃ e, (save tree here p t (.int places) name).answer = .error (.file e)) ∨
          (∃ e, linesWith t (.int places) name = .error e ∧
            (save tree here p t (.int places) name).answer = .error (.object e)) ∨
          (save tree here p t (.int places) name).answer = .ok (fileText ls) ∧
            (save tree here p t (.int places) name).state.find here p
              = .ok (.file (.parsed (.text (fileText ls)))) := by
  have hwith := linesWith_int (Int.natCast_nonneg places) t name
  rw [Int.toNat_natCast] at hwith
  have hne : lines t places (shownName name) ≠ [] := by
    simp [lines, header]
  refine ⟨_, hwith, fault?_eq_none_iff, ?_, plainName_iff h _, ?_, countP_begins_vertex h _,
    countP_begins_line h _, ?_⟩
  · intro line hline
    exact (mem_lines_iff.mp hline).imp_left (oneLine_of_mem_lines h)
  · rw [toList_fileText hne, lines_endLines_iff, plainName_iff h, List.forall_mem_map]
  · intro tree here p
    rcases save_cases tree here p t (.int places) name with hfile | hobject | ⟨ls, hls, hsaved⟩
    · exact Or.inl hfile
    · exact Or.inr (Or.inl hobject)
    · rw [hwith] at hls
      cases hfault : fault? t places with
      | some e =>
        rw [hfault] at hls
        cases hls
      | none =>
        rw [hfault] at hls
        obtain rfl := Except.ok.inj hls
        exact Or.inr (Or.inr hsaved)

theorem lines_of_file_fork :
    (ofItems fork).Contiguous ∧ PlainName (shownName (some "fork")) ∧
      ∃ ls, linesWith (ofItems fork) (.int 3) (some "fork") = .ok ls ∧
        Text.lines (fileText ls).toList = ls.map String.toList ∧
        (ls.map String.toList).countP (begins "v ") = 3 ∧
        (ls.map String.toList).countP (begins "l ") = 1 := by
  have hcontiguous := contiguous_ofItems fork
  have hname : PlainName (shownName (some "fork")) := by
    intro n hn
    obtain rfl := Option.some.inj hn
    decide
  obtain ⟨ls, hls, hfault, -, -, hlines, hvertices, hruns, -⟩ :=
    lines_of_file hcontiguous 3 (some "fork")
  rw [hfault.mpr (writable_of_le (by decide))] at hls
  exact ⟨hcontiguous, hname, ls, hls, hlines.mp hname, hvertices, hruns⟩

theorem name_adds_lines :
    linesWith (ofItems []) (.int 6) (some "a\nv 0 0 0")
        = .ok ["# arbor turtle trace", "# points=0 runs=1", "o a\nv 0 0 0"] ∧
      ¬ OneLine "o a\nv 0 0 0".toList ∧
      (ofItems [] : Trace Float).pointCount = 0 ∧
      Text.lines (fileText ["# arbor turtle trace", "# points=0 runs=1", "o a\nv 0 0 0"]).toList
        = ["# arbor turtle trace".toList, "# points=0 runs=1".toList, "o a".toList,
          "v 0 0 0".toList] := by
  refine ⟨rfl, by decide, rfl, ?_⟩
  decide +kernel

end Wavefront

end LSystem
