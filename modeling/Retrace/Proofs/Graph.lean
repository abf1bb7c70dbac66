import Mathlib.Data.List.Nodup
import Retrace.Graph

/-! Graphs hold clauses of distinct names, each of which cites clauses before it. -/

namespace Retrace

/-- An item in a list with one more at its end is that last one, or stands among the others. -/
theorem snoc_eq_append_cons {α : Type} {items before after : List α} {last item : α}
    (split : items ++ [last] = before ++ item :: after) :
    (after = [] ∧ before = items ∧ item = last) ∨
      ∃ front, after = front ++ [last] ∧ items = before ++ item :: front := by
  -- What follows the item tells whether it is the last one.
  rcases List.eq_nil_or_concat after with rfl | ⟨front, final, rfl⟩
  · obtain ⟨rfl, same⟩ := List.append_inj' split rfl
    exact .inl ⟨rfl, rfl, (List.singleton_inj.mp same).symm⟩
  · rw [List.concat_eq_append, ← List.cons_append, ← List.append_assoc] at split
    obtain ⟨rfl, same⟩ := List.append_inj' split rfl
    exact .inr ⟨front, by rw [List.concat_eq_append, List.singleton_inj.mp same], rfl⟩

namespace Clause

/-- Clauses in the order of a trace: no name is taken twice, and every parent comes earlier. -/
structure Ordered (clauses : List Clause) : Prop where
  distinct : (clauses.map name).Nodup
  earlier : ∀ before clause after, clauses = before ++ clause :: after →
    ∀ parent ∈ clause.parents, parent ∈ before.map name

/-- No clauses are in order. -/
theorem Ordered.nil : Ordered [] where
  distinct := by simp
  earlier := by simp

/-- A clause of a new name that cites earlier clauses keeps the order. -/
theorem Ordered.snoc {clauses : List Clause} {clause : Clause} (ordered : Ordered clauses)
    (fresh : clause.name ∉ clauses.map name)
    (cites : ∀ parent ∈ clause.parents, parent ∈ clauses.map name) :
    Ordered (clauses ++ [clause]) where
  distinct := by
    -- The new name stands behind all others and differs from each of them.
    rw [List.map_append, List.nodup_append]
    refine ⟨ordered.distinct, by simp, ?_⟩
    intro taken member other same
    rw [List.map_singleton, List.mem_singleton] at same
    exact fun equal => fresh (same ▸ equal ▸ member)
  earlier := by
    intro before found after split
    -- Either the clause found is the new one, or the split is one of the earlier clauses.
    rcases snoc_eq_append_cons split with ⟨-, rfl, rfl⟩ | ⟨front, -, within⟩
    · exact cites
    · exact ordered.earlier before found front within

/-- A clause that follows others in order has a name of its own. -/
theorem Ordered.fresh {clauses others : List Clause} {clause : Clause}
    (ordered : Ordered (clauses ++ clause :: others)) : clause.name ∉ clauses.map name := by
  -- The names before the clause differ from those that start with its own.
  have distinct := ordered.distinct
  rw [List.map_append, List.nodup_append] at distinct
  intro member
  exact distinct.2.2 _ member _ (by simp) rfl

/-- In clauses that are in order, a name stands for one clause only. -/
theorem Ordered.eq_of_name {clauses : List Clause} (ordered : Ordered clauses)
    {first second : Clause} (one : first ∈ clauses) (other : second ∈ clauses)
    (same : first.name = second.name) : first = second :=
  List.inj_on_of_nodup_map ordered.distinct one other same

/-- In clauses that are in order, no clause cites itself. -/
theorem Ordered.name_notMem_parents {clauses : List Clause} (ordered : Ordered clauses)
    {clause : Clause} (member : clause ∈ clauses) : clause.name ∉ clause.parents := by
  obtain ⟨before, after, split⟩ := List.append_of_mem member
  intro cited
  -- The name would be taken by an earlier clause already.
  have taken := ordered.earlier before clause after split clause.name cited
  exact (split ▸ ordered).fresh taken

/-- Why a clause cannot stand behind the given clauses, if it cannot: its name is taken or, failing
that, it cites a name that none of them has. -/
def conflict? (earlier : List Clause) (clause : Clause) : Option Fault :=
  if clause.name ∈ earlier.map name then some (.duplicateName clause.name)
  else (clause.parents.find? (· ∉ earlier.map name)).map (.unknownParent clause.name)

end Clause

namespace Graph

variable {graph grown : Graph} {clause : Clause}

/-- A graph contains exactly the names of its clauses. -/
theorem contains_eq_true {name : String} :
    graph.contains name = true ↔ name ∈ graph.toList.map Clause.name := by
  rw [contains_iff, List.mem_map]

/-- A clause is accepted exactly if its name is new and all of its parents are contained. -/
theorem insert_ok_iff :
    graph.insert clause = .ok grown ↔
      clause.name ∉ graph.toList.map Clause.name ∧
        (∀ parent ∈ clause.parents, parent ∈ graph.toList.map Clause.name) ∧
        grown = { clauses := graph.clauses.push clause } := by
  -- The two checks are made one after the other.
  unfold insert
  by_cases taken : graph.contains clause.name = true
  · simp [taken, ← contains_eq_true]
  · rw [if_neg taken, ← contains_eq_true]
    cases missing : clause.parents.find? (! graph.contains ·) with
    | some parent =>
      -- The first parent that is not contained refutes the second condition.
      have member := List.mem_of_find?_eq_some missing
      have absent := List.find?_some missing
      simp only [Bool.not_eq_true'] at absent
      constructor
      · intro accepted
        cases accepted
      · rintro ⟨-, cites, -⟩
        have present := contains_eq_true.mpr (cites parent member)
        rw [absent] at present
        cases present
    | none =>
      have cites : ∀ parent ∈ clause.parents, parent ∈ graph.toList.map Clause.name := by
        intro parent member
        have present := List.find?_eq_none.mp missing parent member
        exact contains_eq_true.mp (by simpa using present)
      simp only [Except.ok.injEq]
      exact ⟨fun same => ⟨taken, cites, same.symm⟩, fun all => all.2.2.symm⟩

/-- A clause is refused exactly if it is in conflict with the clauses that are there. -/
theorem insert_eq :
    graph.insert clause = match clause.conflict? graph.toList with
      | some fault => .error fault
      | none => .ok { clauses := graph.clauses.push clause } := by
  have absent : (fun parent => ! graph.contains parent) =
      fun parent => decide (parent ∉ graph.toList.map Clause.name) := by
    funext parent
    simp only [← contains_eq_true, decide_not, Bool.decide_eq_true]
  -- Both check the name first and then the parents in the order of their citation.
  unfold insert Clause.conflict?
  simp only [absent, contains_eq_true]
  split
  · rfl
  · cases clause.parents.find? fun parent => decide (parent ∉ graph.toList.map Clause.name) <;> rfl

/-- A clause that is accepted keeps the order. -/
theorem ordered_insert (ordered : Clause.Ordered graph.toList)
    (accepted : graph.insert clause = .ok grown) : Clause.Ordered grown.toList := by
  -- Acceptance checks exactly what the order asks of a further clause.
  obtain ⟨fresh, cites, -⟩ := insert_ok_iff.mp accepted
  rw [toList_insert accepted]
  exact ordered.snoc fresh cites

/-- A clause that is found is in the graph and has the name that was asked for. -/
theorem mem_of_get? {name : String} (found : graph.get? name = some clause) :
    clause ∈ graph.toList ∧ clause.name = name := by
  -- The search goes through the clauses and compares their names.
  refine ⟨Array.mem_toList_iff.mpr (Array.mem_of_find?_eq_some found), ?_⟩
  simpa using Array.find?_some found

/-- Among clauses in order, a clause is found by its name. -/
theorem get?_name (ordered : Clause.Ordered graph.toList) (member : clause ∈ graph.toList) :
    graph.get? clause.name = some clause := by
  -- The search finds some clause of that name, and there is only one.
  have present : graph.contains clause.name = true :=
    contains_eq_true.mpr (List.mem_map_of_mem member)
  rw [← isSome_get?] at present
  obtain ⟨found, located⟩ := Option.isSome_iff_exists.mp present
  obtain ⟨inside, named⟩ := mem_of_get? located
  rw [located, ordered.eq_of_name inside member named]

end Graph

end Retrace
