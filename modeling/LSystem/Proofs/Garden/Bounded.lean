import LSystem.Proofs.Expansion.Limit
import LSystem.Proofs.Garden.Everywhere
import LSystem.Proofs.Plant.Snapshot

namespace LSystem

def Geometry.Within (limit : Int) (g : Geometry) : Prop :=
  (g.sequence.size : Int) ≤ limit ∨ g.sequence = g.grammar.start.toArray

namespace Plant

open Draft

variable {p : Plant} {limit : Int}

def Reached (limit : Value) (p : Plant) : Prop :=
  (∃ options declarations p₀ commands,
      create options declarations limit = .ok p₀ ∧ p = p₀.performAll commands)
    ∨ ∃ declarations options deeds n,
      ((Garden.create declarations options limit).actAll deeds).plants.get? n = some p

theorem Reached.holds {P : Plant → Prop} {limit : Value} (h : p.Reached limit)
    (hP : Garden.Lasting P limit) : P p := by
  rcases h with ⟨options, declarations, p₀, commands, hcreate, rfl⟩ |
    ⟨declarations, options, deeds, n, hp⟩
  · exact hP.performAll (hP.create hcreate) commands
  · exact ((Garden.everywhere_create P declarations options limit).actAll hP deeds).holds n p hp

end Plant

end LSystem
