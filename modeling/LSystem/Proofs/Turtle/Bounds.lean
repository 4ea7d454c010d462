import LSystem.Proofs.Turtle.Accesses
import Mathlib.Algebra.Ring.Int.Defs

namespace LSystem

/-- Within the buffers made for `codes`; a place that is read is one that was written earlier. -/
def Access.InBounds (codes : List Int) (earlier : List Access) : Access → Prop
  | keep i => i < max (codes.count ActionCode.push) 1
  | comeBack i => i < max (codes.count ActionCode.push) 1 ∧ keep i ∈ earlier
  | row i _ => i < codes.length + codes.count ActionCode.pop
  | turn i => 0 ≤ i ∧ i ≤ 5

namespace Plotter

variable {α : Type} {p q : Plotter α} {code : Int} {codes before after : List Int}
  {past : List Access} {a : Access} {row : PlotRow α} {rows : Array (PlotRow α)}
  {stack : Array (Option (Cursor α))} {i n depth : Nat} {isBreak : Bool}

structure Recorded (past : List Access) (rows : Array (PlotRow α)) (written : Nat) : Prop where
  inOrder : past.filterMap Access.row? = List.range written
  holds : ∀ i isBreak, .row i isBreak ∈ past → rows[i]?.bind PlotRow.isBreak? = some isBreak

structure Filled (past : List Access) (stack : Array (Option (Cursor α))) (depth : Nat) : Prop where
  kept : ∀ i < depth, .keep i ∈ past
  holds : ∀ i, .keep i ∈ past → ∃ c, stack[i]? = some (some c)

namespace Recorded

theorem lt (h : Recorded past rows n) (hmem : .row i isBreak ∈ past) : i < n := by
  have hrow : i ∈ past.filterMap Access.row? := List.mem_filterMap.mpr ⟨_, hmem, rfl⟩
  rw [h.inOrder] at hrow
  exact List.mem_range.mp hrow

theorem exists_mem (h : Recorded past rows n) (hi : i < n) : ∃ isBreak, .row i isBreak ∈ past := by
  rw [← List.mem_range, ← h.inOrder] at hi
  obtain ⟨a, ha, hrow⟩ := List.mem_filterMap.mp hi
  cases a with
  | row j isBreak =>
    obtain rfl := Option.some.inj hrow
    exact ⟨isBreak, ha⟩
  | _ => cases hrow

theorem write (h : Recorded past rows n) (hroom : n < rows.size) (row : PlotRow α)
    (hrow : row.isBreak? = some isBreak) :
    Recorded (past ++ [.row n isBreak]) (rows.setIfInBounds n row) (n + 1) := by
  refine ⟨?_, fun i b hmem => ?_⟩
  · rw [List.filterMap_append, h.inOrder, List.range_succ]
    rfl
  · rcases List.mem_append.mp hmem with hold | hnew
    · have hne : n ≠ i := Nat.ne_of_gt (h.lt hold)
      rw [Array.getElem?_setIfInBounds_ne hne]
      exact h.holds i b hold
    · cases List.mem_singleton.mp hnew
      rw [Array.getElem?_setIfInBounds_self_of_lt hroom]
      exact hrow

theorem pass (h : Recorded past rows n) (ha : a.row? = none) : Recorded (past ++ [a]) rows n := by
  refine ⟨?_, fun i b hmem => ?_⟩
  · rw [List.filterMap_append, List.filterMap_cons_none ha, h.inOrder]
    exact List.append_nil _
  · rcases List.mem_append.mp hmem with hold | hnew
    · exact h.holds i b hold
    · rw [← List.mem_singleton.mp hnew] at ha
      cases ha

theorem lineBreak_iff (h : Recorded past rows n) (hi : i < n) :
    rows[i]? = some .lineBreak ↔ .row i true ∈ past := by
  have hflag : rows[i]?.bind PlotRow.isBreak? = some true ↔ rows[i]? = some .lineBreak := by
    rcases rows[i]? with _ | (_ | _ | _) <;> simp [PlotRow.isBreak?]
  obtain ⟨isBreak, hmem⟩ := h.exists_mem hi
  rw [← hflag]
  constructor
  · intro htrue
    rw [h.holds i isBreak hmem] at htrue
    exact Option.some.inj htrue ▸ hmem
  · exact h.holds i true

theorem lineBreak_or_vertex (h : Recorded past rows n) (hi : i < n) :
    rows[i]? = some .lineBreak ∨ ∃ v, rows[i]? = some (.vertex v) := by
  obtain ⟨isBreak, hmem⟩ := h.exists_mem hi
  obtain ⟨row, hrow, hflag⟩ := Option.bind_eq_some_iff.mp (h.holds i isBreak hmem)
  rw [hrow]
  cases row with
  | blank => cases hflag
  | vertex v => exact Or.inr ⟨v, rfl⟩
  | lineBreak => exact Or.inl rfl

end Recorded

namespace Filled

theorem append (h : Filled past stack depth) {more : List Access} (hmore : ∀ i, .keep i ∉ more) :
    Filled (past ++ more) stack depth := by
  refine ⟨fun i hi => List.mem_append_left more (h.kept i hi), fun i hmem => ?_⟩
  rcases List.mem_append.mp hmem with hold | hnew
  · exact h.holds i hold
  · exact absurd hnew (hmore i)

theorem keep (h : Filled past stack depth) (hroom : depth < stack.size) (c : Cursor α) :
    Filled (past ++ [.keep depth]) (stack.setIfInBounds depth (some c)) (depth + 1) := by
  refine ⟨fun i hi => ?_, fun i hmem => ?_⟩
  · rcases Nat.lt_succ_iff_lt_or_eq.mp hi with hlt | rfl
    · exact List.mem_append_left _ (h.kept i hlt)
    · exact List.mem_append_right _ (List.mem_singleton_self _)
  · by_cases heq : depth = i
    · subst heq
      exact ⟨c, Array.getElem?_setIfInBounds_self_of_lt hroom⟩
    · rw [Array.getElem?_setIfInBounds_ne heq]
      rcases List.mem_append.mp hmem with hold | hnew
      · exact h.holds i hold
      · cases List.mem_singleton.mp hnew
        exact absurd rfl heq

theorem back (h : Filled past stack depth) {e : Nat} (he : e ≤ depth) : Filled past stack e :=
  ⟨fun i hi => h.kept i (Nat.lt_of_lt_of_le hi he), h.holds⟩

end Filled

theorem Moves.recorded (h : p.Moves code q) (hp : Recorded past p.rows p.written) :
    Recorded (past ++ p.accesses code) q.rows q.written := by
  cases h with
  | draw c v hcode hroom =>
    rw [accesses_draw hcode]
    exact hp.write hroom (.vertex v) rfl
  | keep hroom => exact hp.pass rfl
  | pass hdepth =>
    rw [accesses_pop_of_depth_zero hdepth, List.append_nil]
    exact hp
  | comeBack c hdepth hkept hroom =>
    have hback : Recorded (past ++ [.comeBack (p.depth - 1)]) p.rows p.written := hp.pass rfl
    have hbroken := hback.write (Nat.lt_of_succ_lt hroom) .lineBreak rfl
    have hdrawn := hbroken.write (by simpa using hroom) (.vertex c.position) rfl
    rw [accesses_pop hdepth]
    simpa using hdrawn
  | turn c hcode hplace =>
    rw [accesses_turn hcode]
    exact hp.pass rfl
  | skip hcode =>
    rw [accesses_skip hcode, List.append_nil]
    exact hp

theorem Moves.filled (h : p.Moves code q) (hp : Filled past p.stack p.depth) :
    Filled (past ++ p.accesses code) q.stack q.depth := by
  cases h with
  | draw c v hcode hroom =>
    rw [accesses_draw hcode]
    exact hp.append (by simp)
  | keep hroom => exact hp.keep hroom p.cursor
  | pass hdepth =>
    rw [accesses_pop_of_depth_zero hdepth]
    exact hp.append (by simp)
  | comeBack c hdepth hkept hroom =>
    rw [accesses_pop hdepth]
    exact (hp.back (Nat.sub_le _ 1)).append (by simp)
  | turn c hcode hplace =>
    rw [accesses_turn hcode]
    exact hp.append (by simp)
  | skip hcode =>
    rw [accesses_skip hcode]
    exact hp.append (by simp)

/-- A plotter made for `codes` that has come past those of `before`, with what it has used. -/
structure Within (codes before : List Int) (past : List Access) (p : Plotter α) : Prop where
  rows_size : p.rows.size = codes.length + codes.count ActionCode.pop
  stack_size : p.stack.size = max (codes.count ActionCode.push) 1
  written_le : p.written ≤ before.length + before.count ActionCode.pop
  depth_le : p.depth ≤ before.count ActionCode.push
  recorded : Recorded past p.rows p.written
  filled : Filled past p.stack p.depth

theorem within_plotterFor [Zero α] [One α] (codes : List Int) :
    (Turtle.plotterFor codes.toArray : Plotter α).Within codes [] [] := by
  refine ⟨?_, ?_, Nat.le_refl 0, Nat.le_refl 0, ⟨rfl, nofun⟩, ⟨nofun, nofun⟩⟩
  · simp [Turtle.plotterFor, create]
  · simp [Turtle.plotterFor, create]

theorem room_of_split (h : codes = before ++ code :: after) :
    before.length + before.count ActionCode.pop + 1 + [code].count ActionCode.pop
        ≤ codes.length + codes.count ActionCode.pop
      ∧ before.count ActionCode.push + [code].count ActionCode.push
        ≤ codes.count ActionCode.push := by
  rw [h]
  simp only [List.length_append, List.length_cons, List.count_append, List.count_cons,
    List.count_nil]
  omega

namespace Within

theorem inBounds (h : p.Within codes before past) (hsplit : codes = before ++ code :: after)
    (hcode : code ≤ 9) : ∀ a ∈ p.accesses code, a.InBounds codes past := by
  obtain ⟨hrows, hplaces⟩ := room_of_split hsplit
  have hwritten := h.written_le
  have hdepth := h.depth_le
  rcases code_cases code with rfl | rfl | rfl | rfl | hturn | hskip
  · refine List.forall_mem_singleton.mpr (?_ : p.written < _)
    omega
  · refine List.forall_mem_singleton.mpr (?_ : p.written < _)
    omega
  · refine List.forall_mem_singleton.mpr (?_ : p.depth < _)
    rw [List.count_singleton_self] at hplaces
    omega
  · by_cases hzero : p.depth = 0
    · rw [accesses_pop_of_depth_zero hzero]
      exact nofun
    · rw [accesses_pop hzero, List.forall_mem_cons, List.forall_mem_cons,
        List.forall_mem_singleton]
      rw [List.count_singleton_self] at hrows
      refine ⟨⟨?_, h.filled.kept _ (by omega)⟩, (?_ : p.written < _), (?_ : p.written + 1 < _)⟩
        <;> omega
  · rw [accesses_turn hturn, List.forall_mem_singleton]
    refine ⟨Int.sub_nonneg.mpr hturn, ?_⟩
    simp only [ActionCode.firstRotation]
    omega
  · rw [accesses_skip hskip]
    exact nofun

theorem serves (h : p.Within codes before past) (ha : a.InBounds codes past) : p.Serves a := by
  cases a with
  | keep i =>
    rw [Serves, h.stack_size]
    exact ha
  | comeBack i => exact h.filled.holds i ha.2
  | row i isBreak =>
    rw [Serves, h.rows_size]
    exact ha
  | turn i =>
    obtain ⟨hlow, hhigh⟩ := ha
    rw [Serves]
    omega

theorem move (h : p.Within codes before past) (hmove : p.Moves code q) :
    q.Within codes (before ++ [code]) (past ++ p.accesses code) := by
  obtain ⟨hrows, hstack⟩ := hmove.sizes
  obtain ⟨hwritten, hdepth⟩ := hmove.counts
  refine ⟨hrows.trans h.rows_size, hstack.trans h.stack_size, ?_, ?_, hmove.recorded h.recorded,
    hmove.filled h.filled⟩
  · have hle := h.written_le
    rw [List.length_append, List.count_append, List.length_singleton]
    omega
  · have hle := h.depth_le
    rw [List.count_append]
    omega

variable [Add α] [Mul α] (rotations : Rotations α) (length : α)

theorem step (h : p.Within codes before past) (hsplit : codes = before ++ code :: after)
    (hcode : code ≤ 9) : ∃ q, p.step? rotations length code = some q
      ∧ q.Within codes (before ++ [code]) (past ++ p.accesses code) := by
  have hserves : ∀ a ∈ p.accesses code, p.Serves a :=
    fun a ha => h.serves (h.inBounds hsplit hcode a ha)
  obtain ⟨q, hq⟩ := (exists_step?_iff rotations length).mpr hserves
  exact ⟨q, hq, h.move (moves_of_step? rotations length hq)⟩

theorem run {segment : List Int} (h : p.Within codes before past)
    (hsplit : codes = before ++ (segment ++ after)) (hcodes : ∀ code ∈ segment, code ≤ 9) :
    ∃ q, p.run? rotations length segment.toArray = some q
      ∧ q.Within codes (before ++ segment) (past ++ p.log rotations length segment) := by
  induction segment generalizing p before past with
  | nil =>
    refine ⟨p, rfl, ?_⟩
    rw [log, List.append_nil, List.append_nil]
    exact h
  | cons code segment ih =>
    obtain ⟨hcode, hrest⟩ := List.forall_mem_cons.mp hcodes
    obtain ⟨next, hnext, hwithin⟩ := h.step rotations length hsplit hcode
    have hsplit' : codes = before ++ [code] ++ (segment ++ after) := by
      rw [hsplit, List.append_assoc]
      rfl
    obtain ⟨q, hq, hend⟩ := ih hwithin hsplit' hrest
    refine ⟨q, ?_, ?_⟩
    · rw [run?_cons, hnext]
      exact hq
    · rw [log, hnext]
      simpa using hend

end Within

end Plotter

namespace Turtle

variable {α : Type} [Zero α] [One α] [Add α] [Mul α]

theorem plotter_keeps_to_buffers (rotations : Rotations α) (length : α) {codes : List Int}
    (h : ∀ code ∈ codes, -1 ≤ code ∧ code ≤ 9) :
    (∀ before code after, codes = before ++ code :: after →
      ∃ p q, (plotterFor codes.toArray).run? rotations length before.toArray = some p
        ∧ p.step? rotations length code = some q
        ∧ p.rows.size = codes.length + codes.count ActionCode.pop
        ∧ p.stack.size = max (codes.count ActionCode.push) 1
        ∧ p.depth ≤ before.count ActionCode.push
        ∧ (∀ a ∈ p.accesses code,
            a.InBounds codes ((plotterFor codes.toArray).log rotations length before))
        ∧ (∀ i, (∀ isBreak, .row i isBreak ∉ p.accesses code) → q.rows[i]? = p.rows[i]?)
        ∧ ∀ i, .keep i ∉ p.accesses code → q.stack[i]? = p.stack[i]?)
      ∧ ∃ q, (plotterFor codes.toArray).run? rotations length codes.toArray = some q
        ∧ q.written ≤ codes.length + codes.count ActionCode.pop
        ∧ ((plotterFor codes.toArray).log rotations length codes).filterMap Access.row?
          = List.range q.written
        ∧ ∀ i < q.written,
          (q.rows[i]? = some .lineBreak ∨ ∃ v, q.rows[i]? = some (.vertex v))
          ∧ (q.rows[i]? = some .lineBreak ↔
            ∃ before after p, codes = before ++ ActionCode.pop :: after
              ∧ (plotterFor codes.toArray).run? rotations length before.toArray = some p
              ∧ p.depth ≠ 0 ∧ p.written = i) := by
  have hstart : (plotterFor codes.toArray : Plotter α).Within codes [] [] :=
    Plotter.within_plotterFor codes
  refine ⟨fun before code after hsplit => ?_, ?_⟩
  · have hbefore : ∀ c ∈ before, c ≤ 9 := fun c hc => (h c (hsplit ▸ List.mem_append_left _ hc)).2
    have hcode : code ≤ 9 := (h code (hsplit ▸ List.mem_append_right _ List.mem_cons_self)).2
    obtain ⟨p, hrun, hwithin⟩ := hstart.run rotations length hsplit hbefore
    obtain ⟨q, hstep, -⟩ := hwithin.step rotations length hsplit hcode
    have hmove := Plotter.moves_of_step? rotations length hstep
    exact ⟨p, q, hrun, hstep, hwithin.rows_size, hwithin.stack_size, hwithin.depth_le,
      hwithin.inBounds hsplit hcode, fun i => hmove.rows_eq, fun i => hmove.stack_eq⟩
  · have hwhole : codes = [] ++ (codes ++ []) := (List.append_nil codes).symm
    obtain ⟨q, hrun, hwithin⟩ := hstart.run rotations length hwhole fun c hc => (h c hc).2
    refine ⟨q, hrun, hwithin.written_le, hwithin.recorded.inOrder, fun i hi => ?_⟩
    refine ⟨hwithin.recorded.lineBreak_or_vertex hi, ?_⟩
    rw [hwithin.recorded.lineBreak_iff hi, List.nil_append, Plotter.mem_log_iff]
    simp only [Plotter.lineBreak_mem_accesses_iff]
    constructor
    · rintro ⟨before, code, after, p, hsplit, hp, rfl, hpop⟩
      exact ⟨before, after, p, hsplit, hp, hpop⟩
    · rintro ⟨before, after, p, hsplit, hp, hpop⟩
      exact ⟨before, _, after, p, hsplit, hp, rfl, hpop⟩

def quarterTurns : Rotations Int :=
  .ofAngle 0 1 0 (-1)

def knot : List Int :=
  [3, 2, 1, 3, 8, 2, -1, 0]

theorem plotter_keeps_to_buffers_knot :
    (∀ code ∈ knot, -1 ≤ code ∧ code ≤ 9)
      ∧ (∃ p q, (plotterFor knot.toArray).run? quarterTurns 1 #[3, 2, 1] = some p
          ∧ p.step? quarterTurns 1 ActionCode.pop = some q
          ∧ p.depth ≤ 1
          ∧ ∀ a ∈ p.accesses ActionCode.pop,
              a.InBounds knot ((plotterFor knot.toArray).log quarterTurns 1 [3, 2, 1]))
      ∧ ∃ q, (plotterFor knot.toArray).run? quarterTurns 1 knot.toArray = some q
          ∧ q.written ≤ 10
          ∧ ((plotterFor knot.toArray).log quarterTurns 1 knot).filterMap Access.row?
            = List.range q.written := by
  have hcodes : ∀ code ∈ knot, -1 ≤ code ∧ code ≤ 9 := by decide
  obtain ⟨hsteps, q, hrun, hwritten, hrows, -⟩ := plotter_keeps_to_buffers quarterTurns 1 hcodes
  obtain ⟨p, r, hp, hstep, -, -, hdepth, hbounds, -, -⟩ :=
    hsteps [3, 2, 1] ActionCode.pop [8, 2, -1, 0] rfl
  exact ⟨hcodes, ⟨p, r, hp, hstep, hdepth, hbounds⟩, q, hrun, hwritten, hrows⟩

theorem second_row_of_return_is_no_break :
    (∀ code ∈ [ActionCode.push, ActionCode.pop], -1 ≤ code ∧ code ≤ 9)
      ∧ ∃ q, (plotterFor #[ActionCode.push, ActionCode.pop]).run? quarterTurns 1
            #[ActionCode.push, ActionCode.pop] = some q
          ∧ ¬∀ i < q.written, q.rows[i]? = some .lineBreak ↔
            ∃ before after p isBreak,
              [ActionCode.push, ActionCode.pop] = before ++ ActionCode.pop :: after
                ∧ (plotterFor #[ActionCode.push, ActionCode.pop]).run? quarterTurns 1 before.toArray
                  = some p
                ∧ .row i isBreak ∈ p.accesses ActionCode.pop := by
  refine ⟨by decide, _, rfl, fun h => ?_⟩
  have hbreak := (h 1 (by decide)).mpr ⟨[ActionCode.push], [], _, false, rfl, rfl, by decide⟩
  cases hbreak

end Turtle

end LSystem
