import LSystem.Action.Parse
import LSystem.Proofs.Text.Lowercase

namespace LSystem.Action

open Text

inductive Writes : List Char → Action → Prop
  | nothing : Writes "nothing".toList .nothing
  | forward : Writes "forward".toList .forward
  | push : Writes "push".toList .push
  | pop : Writes "pop".toList .pop
  | rotate {gap : List Char} (d : Direction) (h : Blank gap) :
      Writes ("rotate:".toList ++ gap ++ d.spec.toList) (.rotate d)

inductive Misses (given : Value) : List Char → ActionError → Prop
  | noDirection : Misses given "rotate".toList (.directionNotWritten given)
  | unknownKind {cs : List Char} (hcolon : ':' ∉ cs) (hrotate : cs ≠ "rotate".toList)
      (h : ∀ a, ¬Writes cs a) : Misses given cs (.unknownKind (.text (String.ofList cs)))
  | unknownDirection {rest : List Char} (h : ∀ a, ¬Writes ("rotate:".toList ++ rest) a) :
      Misses given ("rotate:".toList ++ rest) (.unknownDirection given)
  | needlessColon {kind rest : List Char} (hcolon : ':' ∉ kind) (h : kind ≠ "rotate".toList) :
      Misses given (kind ++ ':' :: rest) (.directionWritten (String.ofList kind) given)

def readText (given : Value) : List Char :=
  lower (trim given.toText.toList)

def closeUp : List Char → List Char
  | [] => []
  | c :: cs => if c = ':' then c :: cs.dropWhile isBlank else c :: closeUp cs

variable {given other : Value} {cs kind rest gap : List Char} {s : String} {a b : Action}
  {d : Direction} {e : ActionError}

theorem parse_eq (given : Value) : parse given = ofWritten given (readText given) :=
  rfl

theorem endsVisibly_readText (given : Value) : EndsVisibly (readText given) :=
  endsVisibly_lower_trim _

theorem ofKind?_eq_some_iff : ofKind? s = some a ↔ a.direction? = none ∧ a.kind = s := by
  constructor
  · intro h
    unfold ofKind? at h
    split at h
    case h_5 => cases h
    all_goals
      obtain rfl := Option.some.inj h
      exact ⟨rfl, rfl⟩
  · rintro ⟨h, rfl⟩
    cases a with
    | rotate d => cases h
    | _ => rfl

theorem ofSpec?_eq_some_iff : Direction.ofSpec? s = some d ↔ d.spec = s := by
  constructor
  · intro h
    have hfound : Direction.all.find? (fun d => d.spec == s) = some d := h
    simpa using List.find?_some hfound
  · rintro rfl
    exact Direction.ofSpec?_spec d

theorem ofWritten_of_not_mem (h : ':' ∉ cs) :
    ofWritten given cs =
      if String.ofList cs = "rotate" then .error (.directionNotWritten given)
      else (ofKind? (String.ofList cs)).elim (.error (.unknownKind (.text (String.ofList cs))))
        .ok := by
  have hall : ∀ c ∈ cs, decide (c ≠ ':') = true := fun c hc =>
    decide_eq_true fun heq => h (heq ▸ hc)
  rw [ofWritten, List.dropWhile_eq_nil_iff.mpr hall, List.takeWhile_eq_self_iff.mpr hall]
  cases ofKind? (String.ofList cs) <;> rfl

theorem ofWritten_of_split (h : ':' ∉ kind) :
    ofWritten given (kind ++ ':' :: rest) =
      if String.ofList kind = "rotate" then
        (Direction.ofSpec? (String.ofList (trim rest))).elim (.error (.unknownDirection given))
          fun d => .ok (.rotate d)
      else .error (.directionWritten (String.ofList kind) given) := by
  have hall : ∀ c ∈ kind, decide (c ≠ ':') = true := fun c hc =>
    decide_eq_true fun heq => h (heq ▸ hc)
  rw [ofWritten, List.dropWhile_append_of_pos hall, List.takeWhile_append_of_pos hall]
  simp only [ne_eq, not_true_eq_false, decide_false, Bool.false_eq_true, not_false_eq_true,
    List.dropWhile_cons_of_neg, List.takeWhile_cons_of_neg, List.append_nil]
  cases Direction.ofSpec? (String.ofList (trim rest)) <;> rfl

theorem ofWritten_rotate (given : Value) (rest : List Char) :
    ofWritten given ("rotate:".toList ++ rest) =
      (Direction.ofSpec? (String.ofList (trim rest))).elim (.error (.unknownDirection given))
        fun d => .ok (.rotate d) := by
  have hcolon : ':' ∉ "rotate".toList := by decide
  exact ofWritten_of_split hcolon

theorem ofList_eq_iff : String.ofList cs = s ↔ cs = s.toList := by
  constructor
  · rintro rfl
    exact String.toList_ofList.symm
  · rintro rfl
    exact String.ofList_toList

theorem trim_spec (d : Direction) : trim d.spec.toList = d.spec.toList := by
  cases d <;> decide

theorem writes_kind (h : a.direction? = none) : Writes a.kind.toList a := by
  cases a with
  | nothing => exact .nothing
  | forward => exact .forward
  | push => exact .push
  | pop => exact .pop
  | rotate d => cases h

theorem ofWritten_of_writes (given : Value) (h : Writes cs a) : ofWritten given cs = .ok a := by
  cases h with
  | @rotate gap d hgap =>
    have htrim : String.ofList (trim (gap ++ d.spec.toList)) = d.spec := by
      rw [trim_blank_append hgap, trim_spec, String.ofList_toList]
    rw [List.append_assoc, ofWritten_rotate, htrim, Direction.ofSpec?_spec, Option.elim_some]
  | _ => rfl

theorem writes_of_ofWritten (hends : EndsVisibly cs) (h : ofWritten given cs = .ok a) :
    Writes cs a := by
  by_cases hcolon : ':' ∈ cs
  · obtain ⟨kind, rest, rfl, hkind⟩ := List.eq_append_cons_of_mem hcolon
    rw [ofWritten_of_split hkind] at h
    split at h
    · next hrotate =>
      cases hd : Direction.ofSpec? (String.ofList (trim rest)) with
      | none =>
        rw [hd] at h
        cases h
      | some d =>
        rw [hd] at h
        obtain rfl := Except.ok.inj h
        obtain ⟨gap, after, hrest, hgap, hafter⟩ := exists_eq_append_trim rest
        have hspec : d.spec.toList = trim rest := by
          rw [ofSpec?_eq_some_iff.mp hd, String.toList_ofList]
        rw [hrest, ← List.cons_append, ← List.append_assoc] at hends
        obtain rfl := hends.eq_nil_of_blank hafter
        rw [hrest, ofList_eq_iff.mp hrotate, ← hspec, List.append_nil]
        exact .rotate d hgap
    · cases h
  · rw [ofWritten_of_not_mem hcolon] at h
    split at h
    · cases h
    · cases hkind : ofKind? (String.ofList cs) with
      | none =>
        rw [hkind] at h
        cases h
      | some b =>
        rw [hkind] at h
        obtain rfl := Except.ok.inj h
        obtain ⟨hplain, hcs⟩ := ofKind?_eq_some_iff.mp hkind
        rw [ofList_eq_iff.mp hcs.symm]
        exact writes_kind hplain

theorem ofWritten_eq_ok_iff (hends : EndsVisibly cs) :
    ofWritten given cs = .ok a ↔ Writes cs a :=
  ⟨writes_of_ofWritten hends, ofWritten_of_writes given⟩

theorem ofWritten_of_misses (hends : EndsVisibly cs) (h : Misses given cs e) :
    ofWritten given cs = .error e := by
  cases h with
  | noDirection => rfl
  | unknownKind hcolon hrotate hnone =>
    rw [ofWritten_of_not_mem hcolon, if_neg fun heq => hrotate (ofList_eq_iff.mp heq)]
    cases hkind : ofKind? (String.ofList cs) with
    | none => rfl
    | some a =>
      obtain ⟨hplain, hcs⟩ := ofKind?_eq_some_iff.mp hkind
      exact absurd (ofList_eq_iff.mp hcs.symm ▸ writes_kind hplain) (hnone a)
  | @unknownDirection rest hnone =>
    have hread := ofWritten_rotate given rest
    cases hd : Direction.ofSpec? (String.ofList (trim rest)) with
    | none => rwa [hd] at hread
    | some d =>
      rw [hd] at hread
      exact absurd (writes_of_ofWritten hends hread) (hnone _)
  | needlessColon hcolon hrotate =>
    rw [ofWritten_of_split hcolon, if_neg fun heq => hrotate (ofList_eq_iff.mp heq)]

theorem misses_of_ofWritten (h : ofWritten given cs = .error e) : Misses given cs e := by
  have hnone : ∀ a, ¬Writes cs a := by
    intro a hwrites
    rw [ofWritten_of_writes given hwrites] at h
    cases h
  by_cases hcolon : ':' ∈ cs
  · obtain ⟨kind, rest, rfl, hkind⟩ := List.eq_append_cons_of_mem hcolon
    rw [ofWritten_of_split hkind] at h
    split at h
    · next hrotate =>
      obtain rfl := ofList_eq_iff.mp hrotate
      cases hd : Direction.ofSpec? (String.ofList (trim rest)) with
      | none =>
        rw [hd] at h
        obtain rfl := Except.error.inj h
        exact .unknownDirection hnone
      | some d =>
        rw [hd] at h
        cases h
    · next hrotate =>
      obtain rfl := Except.error.inj h
      exact .needlessColon hkind fun heq => hrotate (ofList_eq_iff.mpr heq)
  · rw [ofWritten_of_not_mem hcolon] at h
    split at h
    · next hrotate =>
      obtain rfl := ofList_eq_iff.mp hrotate
      obtain rfl := Except.error.inj h
      exact .noDirection
    · next hrotate =>
      cases hkind : ofKind? (String.ofList cs) with
      | none =>
        rw [hkind] at h
        obtain rfl := Except.error.inj h
        exact .unknownKind hcolon (fun heq => hrotate (ofList_eq_iff.mpr heq)) hnone
      | some a =>
        rw [hkind] at h
        cases h

theorem ofWritten_eq_error_iff (hends : EndsVisibly cs) :
    ofWritten given cs = .error e ↔ Misses given cs e :=
  ⟨misses_of_ofWritten, ofWritten_of_misses hends⟩

theorem writes_spec (a : Action) : Writes a.spec.toList a := by
  cases a with
  | rotate d =>
    rw [spec, String.toList_append]
    exact .rotate d blank_nil
  | nothing => exact .nothing
  | forward => exact .forward
  | push => exact .push
  | pop => exact .pop

theorem readText_spec (a : Action) : readText (.text a.spec) = a.spec.toList := by
  cases a with
  | rotate d => cases d <;> decide
  | _ => decide

theorem parse_spec (a : Action) : parse (.text a.spec) = .ok a := by
  rw [parse_eq, readText_spec]
  exact ofWritten_of_writes _ (writes_spec a)

theorem spec_injective : Function.Injective spec := by
  intro a b h
  have hread := parse_spec a
  rw [h, parse_spec b] at hread
  exact (Except.ok.inj hread).symm

theorem closeUp_append_colon (h : ':' ∉ kind) (rest : List Char) :
    closeUp (kind ++ ':' :: rest) = kind ++ ':' :: rest.dropWhile isBlank := by
  induction kind with
  | nil => rfl
  | cons c kind ih =>
    have hc : ¬c = ':' := Ne.symm (List.ne_of_not_mem_cons h)
    rw [List.cons_append, closeUp, if_neg hc, ih (List.not_mem_of_not_mem_cons h)]
    rfl

theorem closeUp_of_writes (h : Writes cs a) : closeUp cs = a.spec.toList := by
  cases h with
  | @rotate gap d hgap =>
    have hspec : d.spec.toList.dropWhile isBlank = d.spec.toList := by
      cases d <;> decide
    have hcolon : ':' ∉ "rotate".toList := by decide
    have hclose := closeUp_append_colon hcolon (gap ++ d.spec.toList)
    rw [List.dropWhile_append_of_pos hgap, hspec] at hclose
    rw [List.append_assoc, spec, String.toList_append]
    exact hclose
  | _ => rfl

theorem ofParts_kind (a : Action) : ofParts (.text a.kind) (a.direction?.map .proper) = .ok a := by
  cases a <;> rfl

theorem direction?_isSome_iff (a : Action) : a.direction?.isSome ↔ a.kind = "rotate" := by
  cases a <;> simp [direction?, kind]

theorem parse_eq_ok_iff : parse given = .ok a ↔ Writes (readText given) a :=
  ofWritten_eq_ok_iff (endsVisibly_readText given)

theorem parse_reads_written (given : Value) :
    (∀ a, parse given = .ok a ↔ Writes (readText given) a)
      ∧ (∀ e, parse given = .error e ↔ Misses given (readText given) e)
      ∧ (∀ a : Action, parse (.text a.spec) = .ok a
          ∧ (a.direction?.isSome ↔ a.kind = "rotate")
          ∧ ofParts (.text a.kind) (a.direction?.map .proper) = .ok a)
      ∧ ∀ other a b, parse given = .ok a → parse other = .ok b →
          (a = b ↔ closeUp (readText given) = closeUp (readText other)) := by
  refine ⟨fun a => parse_eq_ok_iff, fun e => ofWritten_eq_error_iff (endsVisibly_readText given),
    fun a => ⟨parse_spec a, direction?_isSome_iff a, ofParts_kind a⟩, ?_⟩
  intro other a b ha hb
  rw [closeUp_of_writes (parse_eq_ok_iff.mp ha), closeUp_of_writes (parse_eq_ok_iff.mp hb),
    String.toList_inj, spec_injective.eq_iff]

theorem parse_reads_written_turn :
    parse (.text "\t RoTaTe:\u2003X+\n") = .ok (.rotate .xPos)
      ∧ closeUp (readText (.text "\t RoTaTe:\u2003X+\n"))
        = closeUp (readText (.text (rotate .xPos).spec))
      ∧ parse (.text "Rotate :x+")
        = .error (.directionWritten "rotate " (.text "Rotate :x+")) := by
  obtain ⟨haccepts, -, hspec, hsame⟩ := parse_reads_written (.text "\t RoTaTe:\u2003X+\n")
  have hread : readText (.text "\t RoTaTe:\u2003X+\n")
      = "rotate:".toList ++ ['\u2003'] ++ "x+".toList := by
    decide +kernel
  have hgap : Blank ['\u2003'] := by decide
  have hturn := (haccepts (.rotate .xPos)).mpr (hread ▸ .rotate .xPos hgap)
  refine ⟨hturn, (hsame _ _ _ hturn (hspec (.rotate .xPos)).1).mp rfl, ?_⟩
  have hcolon : ':' ∉ "rotate ".toList := by decide
  exact ((parse_reads_written (.text "Rotate :x+")).2.1 _).mpr (.needlessColon hcolon (by decide))

end LSystem.Action
