import Retrace.Graph
import Retrace.Outline

/-!
Tableau embedding. Derived clauses are not proved one by one: each is given an abbreviation and
waits on a stack. When the trace has ended the stack is taken down from the top. Every clause taken
gives a numbered rule that the core and the clauses still waiting are refuted together, and it joins
the core unless all of its parents are still waiting. The last rule closes the proof from the tips
of the core.
-/

namespace Retrace

/-- The state of tableau embedding. -/
structure Tableau where
  outline : Outline := {}
  /-- The names of the clauses that wait, the latest first. -/
  waiting : List String := []
  /-- The names of the clauses in the core, in the order in which they joined. -/
  core : List String := []
  /-- The number of rules so far. -/
  rules : Nat := 0
  deriving DecidableEq, Repr

namespace Tableau

/-- Makes an attempt on the outline. -/
def onOutline {α : Type} : Attempt Outline α → Attempt Tableau α :=
  Attempt.onPart outline fun outline tableau => { tableau with outline }

/-- Takes the next clause of the trace. -/
def step (clause : Clause) : Attempt Tableau Unit := do
  onOutline Outline.start
  if clause.isRoot then
    onOutline (Outline.root clause)
  else
    onOutline Outline.ensureRefutation
    modify fun tableau => { tableau with waiting := clause.name :: tableau.waiting }
    onOutline (Outline.write (.abbreviation clause.name clause.formula))

/-- Whether a clause need not join the core: all of its parents are waiting. -/
def isRedundant (graph : Graph) (waiting : List String) (name : String) : Bool :=
  match graph.get? name with
  | some clause => clause.parents.all waiting.contains
  | none => false

/-- The rule for the present core and the clauses that wait, the earliest first. It needs the rule
before it, if there is one, and the theory. -/
def rule (tableau : Tableau) : Statement :=
  let earlier := if 1 < tableau.rules then [Statement.ruleName (tableau.rules - 1)] else []
  .rule tableau.rules (tableau.core ++ tableau.waiting.reverse) (earlier ++ tableau.outline.theory)

/-- The state after the topmost of the waiting clauses has been taken. -/
def take (graph : Graph) (top : String) (below : List String) (tableau : Tableau) : Tableau :=
  { tableau with
    waiting := below
    core := if isRedundant graph (top :: below) top then tableau.core else tableau.core ++ [top]
    rules := tableau.rules + 1 }

/-- Takes the given clauses, which are all that wait, and writes a rule for each. Returns the sizes
of the core after every rule. -/
def drain (graph : Graph) : List String → Attempt Tableau (List Nat)
  | [] => pure []
  | top :: below => do
    -- The clause is judged while it still waits itself.
    modify (take graph top below)
    let tableau ← get
    onOutline (Outline.write tableau.rule)
    let sizes ← drain graph below
    return tableau.core.length :: sizes

/-- Closes the script. Without derived clauses falsity is found at once. -/
def finish (graph : Graph) : Attempt Tableau Closing := do
  onOutline Outline.ensureRefutation
  let waiting := (← get).waiting
  if waiting.isEmpty then
    onOutline (Outline.conclude false)
    onOutline Outline.close
    return {}
  let coreSizes ← drain graph waiting
  let tableau ← get
  let tips := tableau.core.map fun name => (graph.tip? name).getD name
  onOutline (Outline.write (.ruleConclusion tips tableau.rules))
  onOutline Outline.close
  return { rules := tableau.rules, core := tableau.core, coreSizes }

end Tableau

end Retrace
