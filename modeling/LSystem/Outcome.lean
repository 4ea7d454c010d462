/-!
Steps on a state that may fail. The state left behind is given on failure too: a step that fails
halfway leaves what it did so far.
-/

namespace LSystem

structure Outcome (σ ε α : Type) where
  state : σ
  answer : Except ε α

namespace Outcome

variable {σ τ ε α β : Type}

def ok (s : σ) (a : α) : Outcome σ ε α :=
  ⟨s, .ok a⟩

def fail (s : σ) (e : ε) : Outcome σ ε α :=
  ⟨s, .error e⟩

def map (f : α → β) (o : Outcome σ ε α) : Outcome σ ε β :=
  ⟨o.state, o.answer.map f⟩

def lift (f : σ → τ) (o : Outcome σ ε α) : Outcome τ ε α :=
  ⟨f o.state, o.answer⟩

def result (o : Outcome σ ε α) : Except ε σ :=
  o.answer.map fun _ => o.state

@[simp] theorem state_map (f : α → β) (o : Outcome σ ε α) : (o.map f).state = o.state := rfl

@[simp] theorem answer_lift (f : σ → τ) (o : Outcome σ ε α) : (o.lift f).answer = o.answer := rfl

end Outcome

end LSystem
