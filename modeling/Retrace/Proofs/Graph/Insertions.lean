import Mathlib.Logic.Relation
import Retrace.Proofs.Attempt
import Retrace.Proofs.Graph

/-!
Graphs that clauses are offered to one after the other. Some are accepted and some are refused; the
graph holds exactly those accepted, each behind all that it rests on.
-/

namespace Retrace.Graph

/-- Offers a clause to a graph that is held as a state. -/
def offer (clause : Clause) : Attempt Graph Unit := do
  set (← ofExcept ((← get).insert clause))

/-- The graph that is left once several clauses have been offered, whichever of them were refused. -/
def pastAll (offered : List Clause) (graph : Graph) : Graph :=
  offered.foldl (fun graph clause => (offer clause).left graph) graph

/-- The clauses that are accepted when several are offered one after the other. -/
def acceptedAmong (graph : Graph) : List Clause → List Clause
  | [] => []
  | clause :: others =>
    match offer clause graph with
    | .ok _ grown => clause :: acceptedAmong grown others
    -- A refusal does not keep the clauses behind it from being offered.
    | .error _ kept => acceptedAmong kept others

/-- The first of two names cites the second: it is that of a clause, and the second that of a
parent. -/
def Cites (graph : Graph) (name parent : String) : Prop :=
  ∃ clause, graph.get? name = some clause ∧ parent ∈ clause.parents

variable {graph grown : Graph} {clause : Clause} {name : String}

/-- Offering a clause is inserting it, and a graph that refuses it stays as it is. -/
theorem offer_eq (graph : Graph) (clause : Clause) :
    offer clause graph = match graph.insert clause with
      | .ok grown => .ok () grown
      | .error fault => .error fault graph := by
  cases inserted : graph.insert clause <;> simp [offer, inserted]

/-- A clause is refused for its conflict with the clauses that are there, and for nothing else. -/
theorem fault?_offer (graph : Graph) (clause : Clause) :
    (offer clause).fault? graph = clause.conflict? graph.toList := by
  -- The graph accepts what is in conflict with nothing.
  rw [Attempt.fault?, offer_eq, insert_eq]
  cases clause.conflict? graph.toList <;> rfl

/-- Whatever is offered, the clauses that are there stay in front and those accepted follow. -/
theorem toList_pastAll (offered : List Clause) (graph : Graph) :
    (pastAll offered graph).toList = graph.toList ++ acceptedAmong graph offered := by
  induction offered generalizing graph with
  | nil => simp [pastAll, acceptedAmong]
  | cons clause others ih =>
    have later := ih ((offer clause).left graph)
    rw [pastAll, List.foldl_cons, ← pastAll, later, acceptedAmong, Attempt.left, offer_eq]
    -- An accepted clause goes behind the others, and a refused one goes nowhere.
    cases inserted : graph.insert clause with
    | ok grown => simp [toList_insert inserted]
    | error fault => rfl

/-- Clauses stay in order, whatever is offered to their graph. -/
theorem ordered_pastAll (offered : List Clause) (ordered : Clause.Ordered graph.toList) :
    Clause.Ordered (pastAll offered graph).toList := by
  induction offered generalizing graph with
  | nil => exact ordered
  | cons clause others ih =>
    rw [pastAll, List.foldl_cons, ← pastAll]
    apply ih
    rw [Attempt.left, offer_eq]
    -- Only an accepted clause changes the graph.
    cases inserted : graph.insert clause with
    | ok grown => exact ordered_insert ordered inserted
    | error fault => exact ordered

/-- Among clauses in order, the names that are cited stand before the one that cites them. -/
theorem Cites.idxOf_lt {parent : String} (ordered : Clause.Ordered graph.toList)
    (cites : graph.Cites name parent) :
    (graph.toList.map Clause.name).idxOf parent < (graph.toList.map Clause.name).idxOf name := by
  obtain ⟨clause, found, cited⟩ := cites
  obtain ⟨member, rfl⟩ := mem_of_get? found
  obtain ⟨before, after, split⟩ := List.append_of_mem member
  have known := ordered.earlier before clause after split parent cited
  have fresh := (split ▸ ordered).fresh
  -- The parent is found among the names before the clause, whose own name is new to them.
  rw [split, List.map_append, List.map_cons, List.idxOf_append_of_mem known,
    List.idxOf_append_of_notMem fresh, List.idxOf_cons_self, Nat.add_zero]
  exact List.idxOf_lt_length_of_mem known

/-- Among clauses in order, no chain of citations comes back to where it started. -/
theorem not_transGen_cites (ordered : Clause.Ordered graph.toList) (name : String) :
    ¬ Relation.TransGen graph.Cites name name := by
  -- Along a chain the places of the names decrease.
  have decreases : ∀ {last : String}, Relation.TransGen graph.Cites name last →
      (graph.toList.map Clause.name).idxOf last < (graph.toList.map Clause.name).idxOf name := by
    intro last chain
    induction chain with
    | single cites => exact cites.idxOf_lt ordered
    | tail _ cites shorter => exact Nat.lt_trans (cites.idxOf_lt ordered) shorter
  exact fun cycle => Nat.lt_irrefl _ (decreases cycle)

/-- Among clauses in order, the tip of a name that is contained is contained as well. -/
theorem contains_tip? (ordered : Clause.Ordered graph.toList) (present : graph.contains name) :
    ∃ tip, graph.tip? name = some tip ∧ graph.contains tip := by
  rw [← isSome_get?] at present
  obtain ⟨clause, found⟩ := Option.isSome_iff_exists.mp present
  obtain ⟨member, rfl⟩ := mem_of_get? found
  refine ⟨_, by rw [tip?, found, Option.map_some], contains_eq_true.mpr ?_⟩
  -- A root stands for itself, and any other clause for a parent, which comes earlier.
  cases parents : clause.parents with
  | nil => exact List.mem_map_of_mem member
  | cons parent others =>
    obtain ⟨before, after, split⟩ := List.append_of_mem member
    have known := ordered.earlier before clause after split parent (by simp [parents])
    rw [split, List.map_append]
    exact List.mem_append_left _ known

/-- Whatever clauses are offered to an empty graph, it holds exactly those that it has accepted, in
order and under names of their own, and each is found by its name. Every clause stands behind its
parents, so that no chain of citations is a circle, and every name has a tip that is contained. A
further clause is refused for its conflict with those that are there and for nothing else; a refusal
leaves the graph as it is, and so does everything offered later leave the clauses that it holds. -/
theorem pastAll_coherent (offered : List Clause) :
    let graph := pastAll offered empty
    graph.toList = acceptedAmong empty offered ∧
      (graph.toList.map Clause.name).Nodup ∧
      (∀ clause ∈ graph.toList, graph.get? clause.name = some clause) ∧
      (∀ before clause after, graph.toList = before ++ clause :: after →
        ∀ parent ∈ clause.parents, parent ∈ before.map Clause.name) ∧
      (∀ name, ¬ Relation.TransGen graph.Cites name name) ∧
      (∀ name, graph.contains name → ∃ tip, graph.tip? name = some tip ∧ graph.contains tip) ∧
      (∀ clause, (offer clause).fault? graph = clause.conflict? graph.toList) ∧
      (∀ clause fault left, offer clause graph = .error fault left → left = graph) ∧
      ∀ further, (pastAll further graph).toList = graph.toList ++ acceptedAmong graph further ∧
        ∀ clause ∈ graph.toList, (pastAll further graph).get? clause.name = some clause := by
  intro graph
  have ordered : Clause.Ordered graph.toList := ordered_pastAll offered Clause.Ordered.nil
  -- All the properties of the graph follow from one: its clauses are in order.
  refine ⟨toList_pastAll offered empty, ordered.distinct, fun _ => get?_name ordered,
    ordered.earlier, not_transGen_cites ordered, fun _ => contains_tip? ordered,
    fault?_offer graph, ?_, ?_⟩
  · -- A refusal hands back the graph it was given.
    intro clause fault left refused
    rw [offer_eq] at refused
    cases inserted : graph.insert clause <;> rw [inserted] at refused <;> cases refused
    rfl
  · intro further
    have grown := toList_pastAll further graph
    refine ⟨grown, fun clause member => get?_name (ordered_pastAll further ordered) ?_⟩
    rw [grown]
    exact List.mem_append_left _ member

end Retrace.Graph
