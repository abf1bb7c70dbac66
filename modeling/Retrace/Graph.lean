import Retrace.Clause
import Retrace.Fault

/-!
The citation graph of a trace: its clauses in the order of the trace, each found by its name. It
only grows, and a clause may cite earlier clauses only.
-/

namespace Retrace

/-- The clauses of a trace so far, in order. -/
structure Graph where
  clauses : Array Clause := #[]
  deriving DecidableEq, Repr

namespace Graph

/-- The graph without clauses. -/
def empty : Graph := {}

/-- The number of clauses. -/
def size (graph : Graph) : Nat :=
  graph.clauses.size

/-- The clauses in the order of the trace. -/
def toList (graph : Graph) : List Clause :=
  graph.clauses.toList

/-- The clause of a given name. -/
def get? (graph : Graph) (name : String) : Option Clause :=
  graph.clauses.find? (·.name == name)

/-- Whether some clause has the given name. -/
def contains (graph : Graph) (name : String) : Bool :=
  graph.clauses.any (·.name == name)

/-- The graph with one more clause. Refused are a name that is taken and, failing that, the first
parent that is no earlier clause. -/
def insert (graph : Graph) (clause : Clause) : Except Fault Graph :=
  if graph.contains clause.name then .error (.duplicateName clause.name)
  else
    match clause.parents.find? (! graph.contains ·) with
    | some parent => .error (.unknownParent clause.name parent)
    | none => .ok { clauses := graph.clauses.push clause }

/-- The name cited in place of a clause when a proof is closed: its own if it is a root, else that
of its first parent. -/
def tip? (graph : Graph) (name : String) : Option String :=
  (graph.get? name).map fun clause => clause.parents.head?.getD clause.name

/-- A clause that is accepted stands behind all earlier ones. -/
theorem toList_insert {graph grown : Graph} {clause : Clause}
    (accepted : graph.insert clause = .ok grown) : grown.toList = graph.toList ++ [clause] := by
  unfold insert at accepted
  split at accepted
  · simp at accepted
  · split at accepted
    · simp at accepted
    · obtain rfl := Except.ok.inj accepted
      simp [toList]

/-- A graph contains exactly the names of its clauses. -/
theorem contains_iff {graph : Graph} {name : String} :
    graph.contains name ↔ ∃ clause ∈ graph.toList, clause.name = name := by
  simp [contains, toList, ← Array.any_toList]

/-- A clause is found exactly if its name is contained. -/
theorem isSome_get? (graph : Graph) (name : String) :
    (graph.get? name).isSome = graph.contains name := by
  simp [get?, contains, Array.isSome_find?]

end Graph

end Retrace
