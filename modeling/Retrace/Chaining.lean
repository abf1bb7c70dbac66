import Retrace.Outline

/-!
Direct chaining: every derived clause becomes a step that follows from its parents.
-/

namespace Retrace

/-- The state of direct chaining. -/
structure Chaining where
  outline : Outline := {}
  /-- The number of steps written. -/
  steps : Nat := 0
  deriving DecidableEq, Repr

namespace Chaining

/-- Makes an attempt on the outline. -/
def onOutline {α : Type} : Attempt Outline α → Attempt Chaining α :=
  Attempt.onPart outline fun outline chaining => { chaining with outline }

/-- Takes the next clause of the trace. -/
def step (clause : Clause) : Attempt Chaining Unit := do
  onOutline Outline.start
  if clause.isRoot then
    onOutline (Outline.root clause)
  else
    onOutline Outline.ensureRefutation
    onOutline (Outline.write (.inference clause.parents clause.name clause.formula))
    modify fun chaining => { chaining with steps := chaining.steps + 1 }

/-- Closes the script: falsity follows from the last step, if there is one. -/
def finish : Attempt Chaining Closing := do
  onOutline Outline.ensureRefutation
  onOutline (Outline.conclude ((← get).steps != 0))
  onOutline Outline.close
  return {}

end Chaining

end Retrace
