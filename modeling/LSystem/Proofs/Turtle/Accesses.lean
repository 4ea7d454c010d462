import LSystem.Proofs.Turtle.Buffers

namespace LSystem

inductive Access where
  | keep (place : Nat)
  | comeBack (place : Nat)
  | row (place : Nat) (isBreak : Bool)
  | turn (place : Int)
  deriving DecidableEq, Repr

def Access.row? : Access → Option Nat
  | row i _ => some i
  | _ => none

def PlotRow.isBreak? {α : Type} : PlotRow α → Option Bool
  | .blank => none
  | .vertex _ => some false
  | .lineBreak => some true

namespace Plotter

variable {α : Type} {p q : Plotter α} {code : Int} {codes : List Int} {a : Access}
  {row : PlotRow α} {i : Nat}

def accesses (p : Plotter α) (code : Int) : List Access :=
  if code = ActionCode.nothing ∨ code = ActionCode.forward then [.row p.written false]
  else if code = ActionCode.push then [.keep p.depth]
  else if code = ActionCode.pop then
    if p.depth = 0 then []
    else [.comeBack (p.depth - 1), .row p.written true, .row (p.written + 1) false]
  else if ActionCode.firstRotation ≤ code then [.turn (code - ActionCode.firstRotation)]
  else []

def Serves (p : Plotter α) : Access → Prop
  | .keep i => i < p.stack.size
  | .comeBack i => ∃ c, p.stack[i]? = some (some c)
  | .row i _ => i < p.rows.size
  | .turn i => i.toNat < 6

inductive Moves (p : Plotter α) : Int → Plotter α → Prop
  | draw {code : Int} (c : Cursor α) (v : Point α)
      (hcode : code = ActionCode.nothing ∨ code = ActionCode.forward)
      (hroom : p.written < p.rows.size) :
      Moves p code { p with
        cursor := c
        rows := p.rows.setIfInBounds p.written (.vertex v)
        written := p.written + 1 }
  | keep (hroom : p.depth < p.stack.size) :
      Moves p ActionCode.push { p with
        stack := p.stack.setIfInBounds p.depth (some p.cursor)
        depth := p.depth + 1 }
  | pass (hdepth : p.depth = 0) : Moves p ActionCode.pop p
  | comeBack (c : Cursor α) (hdepth : p.depth ≠ 0) (hkept : p.stack[p.depth - 1]? = some (some c))
      (hroom : p.written + 1 < p.rows.size) :
      Moves p ActionCode.pop { p with
        cursor := c
        depth := p.depth - 1
        rows := (p.rows.setIfInBounds p.written .lineBreak).setIfInBounds (p.written + 1)
          (.vertex c.position)
        written := p.written + 1 + 1 }
  | turn {code : Int} (c : Cursor α) (hcode : ActionCode.firstRotation ≤ code)
      (hplace : (code - ActionCode.firstRotation).toNat < 6) : Moves p code { p with cursor := c }
  | skip {code : Int} (hcode : code < ActionCode.nothing) : Moves p code p

theorem code_cases (code : Int) :
    code = ActionCode.nothing ∨ code = ActionCode.forward ∨ code = ActionCode.push
      ∨ code = ActionCode.pop ∨ ActionCode.firstRotation ≤ code ∨ code < ActionCode.nothing := by
  simp only [ActionCode.nothing, ActionCode.forward, ActionCode.push, ActionCode.pop,
    ActionCode.firstRotation]
  omega

theorem ne_of_firstRotation_le (h : ActionCode.firstRotation ≤ code) :
    code ≠ ActionCode.nothing ∧ code ≠ ActionCode.forward ∧ code ≠ ActionCode.push
      ∧ code ≠ ActionCode.pop := by
  simp only [ActionCode.nothing, ActionCode.forward, ActionCode.push, ActionCode.pop,
    ActionCode.firstRotation] at h ⊢
  omega

theorem ne_of_lt_nothing (h : code < ActionCode.nothing) :
    code ≠ ActionCode.nothing ∧ code ≠ ActionCode.forward ∧ code ≠ ActionCode.push
      ∧ code ≠ ActionCode.pop ∧ ¬ActionCode.firstRotation ≤ code := by
  simp only [ActionCode.nothing, ActionCode.forward, ActionCode.push, ActionCode.pop,
    ActionCode.firstRotation] at h ⊢
  omega

section Accesses

theorem accesses_draw (h : code = ActionCode.nothing ∨ code = ActionCode.forward) :
    p.accesses code = [.row p.written false] :=
  if_pos h

theorem accesses_push (p : Plotter α) : p.accesses ActionCode.push = [.keep p.depth] :=
  rfl

theorem accesses_pop (h : p.depth ≠ 0) : p.accesses ActionCode.pop =
    [.comeBack (p.depth - 1), .row p.written true, .row (p.written + 1) false] :=
  if_neg h

theorem accesses_pop_of_depth_zero (h : p.depth = 0) : p.accesses ActionCode.pop = [] :=
  if_pos h

theorem accesses_turn (h : ActionCode.firstRotation ≤ code) :
    p.accesses code = [.turn (code - ActionCode.firstRotation)] := by
  obtain ⟨hnothing, hforward, hpush, hpop⟩ := ne_of_firstRotation_le h
  rw [accesses, if_neg (not_or.mpr ⟨hnothing, hforward⟩), if_neg hpush, if_neg hpop, if_pos h]

theorem accesses_skip (h : code < ActionCode.nothing) : p.accesses code = [] := by
  obtain ⟨hnothing, hforward, hpush, hpop, hturn⟩ := ne_of_lt_nothing h
  rw [accesses, if_neg (not_or.mpr ⟨hnothing, hforward⟩), if_neg hpush, if_neg hpop, if_neg hturn]

theorem lineBreak_mem_accesses_iff : .row i true ∈ p.accesses code
    ↔ code = ActionCode.pop ∧ p.depth ≠ 0 ∧ p.written = i := by
  by_cases hcode : code = ActionCode.pop
  · subst hcode
    by_cases hdepth : p.depth = 0
    · simp [accesses_pop_of_depth_zero hdepth, hdepth]
    · simp [accesses_pop hdepth, hdepth, eq_comm]
  · rcases code_cases code with h | h | rfl | h | h | h
    · simp [accesses_draw (Or.inl h), hcode]
    · simp [accesses_draw (Or.inr h), hcode]
    · simp [accesses_push, hcode]
    · exact absurd h hcode
    · simp [accesses_turn h, hcode]
    · simp [accesses_skip h, hcode]

end Accesses

namespace Moves

theorem serves (h : p.Moves code q) : ∀ a ∈ p.accesses code, p.Serves a := by
  cases h with
  | draw c v hcode hroom =>
    rw [accesses_draw hcode]
    exact List.forall_mem_singleton.mpr hroom
  | keep hroom => exact List.forall_mem_singleton.mpr hroom
  | pass hdepth =>
    rw [accesses_pop_of_depth_zero hdepth]
    exact nofun
  | comeBack c hdepth hkept hroom =>
    rw [accesses_pop hdepth]
    simp only [List.forall_mem_cons]
    exact ⟨⟨c, hkept⟩, Nat.lt_of_succ_lt hroom, hroom, nofun⟩
  | turn c hcode hplace =>
    rw [accesses_turn hcode]
    exact List.forall_mem_singleton.mpr hplace
  | skip hcode =>
    rw [accesses_skip hcode]
    exact nofun

theorem rows_eq (h : p.Moves code q) (hi : ∀ isBreak, .row i isBreak ∉ p.accesses code) :
    q.rows[i]? = p.rows[i]? := by
  cases h with
  | draw c v hcode hroom =>
    simp only [accesses_draw hcode, List.mem_singleton, Access.row.injEq, not_and] at hi
    exact Array.getElem?_setIfInBounds_ne fun heq => hi false heq.symm rfl
  | comeBack c hdepth hkept hroom =>
    simp only [accesses_pop hdepth, List.mem_cons, not_or] at hi
    have hbreak : p.written ≠ i := fun heq => (hi true).2.1 (by rw [heq])
    have hvertex : p.written + 1 ≠ i := fun heq => (hi false).2.2.1 (by rw [heq])
    rw [Array.getElem?_setIfInBounds_ne hvertex, Array.getElem?_setIfInBounds_ne hbreak]
  | _ => rfl

theorem stack_eq (h : p.Moves code q) (hi : .keep i ∉ p.accesses code) :
    q.stack[i]? = p.stack[i]? := by
  cases h with
  | keep hroom =>
    simp only [accesses_push, List.mem_singleton, Access.keep.injEq] at hi
    exact Array.getElem?_setIfInBounds_ne (Ne.symm hi)
  | _ => rfl

theorem sizes (h : p.Moves code q) :
    q.rows.size = p.rows.size ∧ q.stack.size = p.stack.size := by
  cases h <;> simp

theorem counts (h : p.Moves code q) :
    q.written ≤ p.written + 1 + [code].count ActionCode.pop
      ∧ q.depth ≤ p.depth + [code].count ActionCode.push := by
  cases h <;> simp <;> omega

end Moves

theorem write?_eq_some_iff :
    p.write? row = some q ↔ p.written < p.rows.size
      ∧ { p with rows := p.rows.setIfInBounds p.written row, written := p.written + 1 } = q := by
  rw [write?]
  split <;> simp [*]

theorem keep?_eq_some_iff :
    p.keep? = some q ↔ p.depth < p.stack.size
      ∧ { p with
          stack := p.stack.setIfInBounds p.depth (some p.cursor), depth := p.depth + 1 } = q := by
  rw [keep?]
  split <;> simp [*]

theorem return?_eq_some_iff :
    p.return? = some q ↔ ∃ c, p.stack[p.depth - 1]? = some (some c)
      ∧ { p with cursor := c, depth := p.depth - 1 } = q := by
  simp only [← Option.join_eq_some_iff]
  rw [return?]
  cases p.stack[p.depth - 1]?.join <;> simp

section Steps

variable [Add α] [Mul α] (rotations : Rotations α) (length : α)

theorem turn?_eq_some_iff {place : Int} :
    p.turn? rotations place = some q ↔ ∃ h : place.toNat < 6,
      { p with cursor.orientation := p.cursor.orientation.mul rotations[place.toNat] } = q := by
  rw [turn?]
  by_cases h : place.toNat < 6 <;> simp [h]

theorem step?_pop (h : p.depth ≠ 0) :
    p.step? rotations length ActionCode.pop = p.return?.bind fun back =>
      (back.write? .lineBreak).bind fun broken => broken.write? (.vertex broken.cursor.position) :=
  if_neg h

theorem step?_turn (h : ActionCode.firstRotation ≤ code) :
    p.step? rotations length code = p.turn? rotations (code - ActionCode.firstRotation) := by
  obtain ⟨hnothing, hforward, hpush, hpop⟩ := ne_of_firstRotation_le h
  rw [step?, if_neg hnothing, if_neg hforward, if_neg hpush, if_neg hpop, if_pos h]

theorem step?_skip (h : code < ActionCode.nothing) : p.step? rotations length code = some p := by
  obtain ⟨hnothing, hforward, hpush, hpop, hturn⟩ := ne_of_lt_nothing h
  rw [step?, if_neg hnothing, if_neg hforward, if_neg hpush, if_neg hpop, if_neg hturn]

theorem moves_of_step? (h : p.step? rotations length code = some q) : p.Moves code q := by
  rcases code_cases code with rfl | rfl | rfl | rfl | hturn | hskip
  · obtain ⟨hroom, rfl⟩ := write?_eq_some_iff.mp h
    exact .draw _ _ (Or.inl rfl) hroom
  · obtain ⟨hroom, rfl⟩ := write?_eq_some_iff.mp h
    exact .draw _ _ (Or.inr rfl) hroom
  · obtain ⟨hroom, rfl⟩ := keep?_eq_some_iff.mp h
    exact .keep hroom
  · by_cases hdepth : p.depth = 0
    · obtain rfl := Option.some.inj ((step?_pop_of_depth_zero rotations length hdepth).symm.trans h)
      exact .pass hdepth
    · rw [step?_pop rotations length hdepth] at h
      obtain ⟨back, hback, h⟩ := Option.bind_eq_some_iff.mp h
      obtain ⟨broken, hbroken, hdrawn⟩ := Option.bind_eq_some_iff.mp h
      obtain ⟨c, hkept, rfl⟩ := return?_eq_some_iff.mp hback
      obtain ⟨-, rfl⟩ := write?_eq_some_iff.mp hbroken
      obtain ⟨hroom, rfl⟩ := write?_eq_some_iff.mp hdrawn
      exact .comeBack c hdepth hkept (by simpa using hroom)
  · rw [step?_turn rotations length hturn] at h
    obtain ⟨hplace, rfl⟩ := (turn?_eq_some_iff rotations).mp h
    exact .turn _ hturn hplace
  · obtain rfl := Option.some.inj ((step?_skip rotations length hskip).symm.trans h)
    exact .skip hskip

theorem exists_step?_iff :
    (∃ q, p.step? rotations length code = some q) ↔ ∀ a ∈ p.accesses code, p.Serves a := by
  refine ⟨fun ⟨q, hq⟩ => (moves_of_step? rotations length hq).serves, fun h => ?_⟩
  rcases code_cases code with rfl | rfl | rfl | rfl | hturn | hskip
  · have hroom : p.written < p.rows.size := h (.row p.written false) List.mem_cons_self
    exact ⟨_, write?_eq_some_iff.mpr ⟨hroom, rfl⟩⟩
  · have hroom : p.written < p.rows.size := h (.row p.written false) List.mem_cons_self
    exact ⟨_, write?_eq_some_iff.mpr ⟨hroom, rfl⟩⟩
  · have hroom : p.depth < p.stack.size := h (.keep p.depth) List.mem_cons_self
    exact ⟨_, keep?_eq_some_iff.mpr ⟨hroom, rfl⟩⟩
  · by_cases hdepth : p.depth = 0
    · exact ⟨p, step?_pop_of_depth_zero rotations length hdepth⟩
    · rw [accesses_pop hdepth] at h
      simp only [List.forall_mem_cons] at h
      obtain ⟨⟨c, hkept⟩, hfirst, hsecond, -⟩ := h
      have hback := return?_eq_some_iff.mpr ⟨c, hkept, rfl⟩
      rw [step?_pop rotations length hdepth]
      refine ⟨_, Option.bind_eq_some_iff.mpr ⟨_, hback, Option.bind_eq_some_iff.mpr
        ⟨_, write?_eq_some_iff.mpr ⟨hfirst, rfl⟩, write?_eq_some_iff.mpr ⟨?_, rfl⟩⟩⟩⟩
      simpa [Serves] using hsecond
  · rw [accesses_turn hturn] at h
    have hplace : (code - ActionCode.firstRotation).toNat < 6 := h (.turn _) List.mem_cons_self
    rw [step?_turn rotations length hturn]
    exact ⟨_, (turn?_eq_some_iff rotations).mpr ⟨hplace, rfl⟩⟩
  · exact ⟨p, step?_skip rotations length hskip⟩

def log (p : Plotter α) : List Int → List Access
  | [] => []
  | code :: rest => p.accesses code ++
    match p.step? rotations length code with
    | some q => q.log rest
    | none => []

theorem run?_cons (p : Plotter α) (code : Int) (rest : List Int) :
    p.run? rotations length (code :: rest).toArray
      = (p.step? rotations length code).bind fun q => q.run? rotations length rest.toArray := by
  simp only [run?, List.foldlM_toArray, List.foldlM_cons]
  rfl

theorem mem_log_iff : a ∈ p.log rotations length codes ↔
    ∃ before code after q, codes = before ++ code :: after
      ∧ p.run? rotations length before.toArray = some q ∧ a ∈ q.accesses code := by
  induction codes generalizing p with
  | nil => simp [log]
  | cons c codes ih =>
    rw [log, List.mem_append]
    constructor
    · rintro (hfirst | hrest)
      · exact ⟨[], c, codes, p, rfl, rfl, hfirst⟩
      · split at hrest
        · next q hq =>
          obtain ⟨before, code, after, r, rfl, hrun, ha⟩ := ih.mp hrest
          refine ⟨c :: before, code, after, r, rfl, ?_, ha⟩
          rw [run?_cons, hq]
          exact hrun
        · cases hrest
    · rintro ⟨before, code, after, r, hsplit, hrun, ha⟩
      cases before with
      | nil =>
        obtain ⟨rfl, rfl⟩ := List.cons.inj hsplit
        obtain rfl := Option.some.inj hrun
        exact Or.inl ha
      | cons d before =>
        obtain ⟨rfl, rfl⟩ := List.cons.inj hsplit
        rw [run?_cons, Option.bind_eq_some_iff] at hrun
        obtain ⟨q, hq, hrun⟩ := hrun
        rw [hq]
        exact Or.inr (ih.mpr ⟨before, code, after, r, rfl, hrun, ha⟩)

end Steps

end Plotter

end LSystem
