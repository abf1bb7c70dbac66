import Retrace.Fault

/-!
Attempts: actions on a state that may stop with a fault. What an attempt changed before it stopped
stays changed.
-/

namespace Retrace

/-- An action on a state that returns a value or stops with a fault. -/
abbrev Attempt (σ : Type) : Type → Type :=
  EStateM Fault σ

namespace Attempt

variable {σ τ α : Type}

/-- Makes an attempt on one part of a state, and puts the part back in either outcome. -/
def embed (put : τ → σ) (attempt : Attempt τ α) (part : τ) : EStateM.Result Fault σ α :=
  match attempt part with
  | .ok value part => .ok value (put part)
  | .error fault part => .error fault (put part)

/-- An attempt on a state that is made on one part of it. -/
def onPart (get : σ → τ) (put : τ → σ → σ) (attempt : Attempt τ α) : Attempt σ α :=
  fun state => embed (put · state) attempt (get state)

end Attempt

end Retrace
