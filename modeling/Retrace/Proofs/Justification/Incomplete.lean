import Retrace.Justification.Reader

/-!
Justifications without their citations: nothing is cited exactly if the search for names reaches an
inference that has no list of parents.
-/

namespace Retrace.Justification

namespace Term

/-- An inference lacks its parents if it has fewer than three arguments, of which they are the
third. -/
def LacksParents (term : Term) : Prop :=
  ∃ arguments, term = list (atom "inference" :: arguments) ∧ arguments.length < 3

/-- The terms that the search for cited names reaches: the term itself, the parents of an inference
and what is reached from there, and all items of any other list with what is reached from them. -/
inductive Reaches : Term → Term → Prop
  | self (term : Term) : Reaches term term
  | parents {rule status parents found : Term} {others : List Term}
      (reaches : Reaches parents found) :
      Reaches (list (atom "inference" :: rule :: status :: parents :: others)) found
  | item {items : List Term} {item found : Term}
      (other : ∀ arguments, items ≠ atom "inference" :: arguments) (member : item ∈ items)
      (reaches : Reaches item found) : Reaches (list items) found

/-- The search for names fails exactly if it reaches an inference without parents. -/
theorem cited?_eq_none_iff :
    (∀ term : Term, term.cited? = none ↔ ∃ found, term.Reaches found ∧ found.LacksParents) ∧
      ∀ items : List Term, citedAll? items = none ↔
        ∃ item ∈ items, ∃ found, item.Reaches found ∧ found.LacksParents := by
  -- The cases are those of the search: an atom, an inference with parents and one without, any
  -- other list, and the items of a list one by one.
  apply cited?.mutual_induct
  case case1 =>
    intro text
    constructor
    · intro missing
      simp [cited?] at missing
    · -- Only the atom itself is reached, and it is no inference.
      rintro ⟨found, ⟨⟩, ⟨arguments, same, -⟩⟩
      cases same
  case case2 =>
    intro rule status parents others ih
    rw [cited?, ih]
    constructor
    · rintro ⟨found, reaches, lacks⟩
      exact ⟨found, .parents reaches, lacks⟩
    · rintro ⟨found, reaches, lacks⟩
      cases reaches with
      | self =>
        -- The inference itself has its three arguments.
        obtain ⟨arguments, same, short⟩ := lacks
        cases same
        simp only [List.length_cons] at short
        omega
      | parents reaches => exact ⟨found, reaches, lacks⟩
      | item other => exact absurd rfl (other _)
  case case3 =>
    intro arguments short
    have few : arguments.length < 3 := by
      match arguments with
      | [] | [_] | [_, _] => simp
      | rule :: status :: parents :: others => exact (short rule status parents others rfl).elim
    constructor
    · intro _
      exact ⟨_, .self _, arguments, rfl, few⟩
    · intro _
      simp [cited?]
  case case4 =>
    intro items other ih
    have plain : ∀ arguments, items ≠ atom "inference" :: arguments :=
      fun arguments same => other arguments same
    have searched : (list items).cited? = citedAll? items := by simp [cited?]
    rw [searched, ih]
    constructor
    · rintro ⟨item, member, found, reaches, lacks⟩
      exact ⟨found, .item plain member reaches, lacks⟩
    · rintro ⟨found, reaches, lacks⟩
      cases reaches with
      | self =>
        -- A list of another head lacks nothing.
        obtain ⟨arguments, same, -⟩ := lacks
        cases same
        exact absurd rfl (plain _)
      | parents => exact absurd rfl (plain _)
      | item _ member reaches => exact ⟨_, member, found, reaches, lacks⟩
  case case5 => simp [citedAll?]
  case case6 =>
    intro item items first others
    simp only [List.mem_cons, exists_eq_or_imp]
    -- The search stops at the first item at which it fails.
    rw [← first, ← others, citedAll?]
    cases item.cited? <;> cases citedAll? items <;> simp

end Term

/-- A justification is incomplete if the search for names, which starts at the first term that is no
theory term, reaches an inference without parents. A clause supplied from outside has no need of
any. -/
def Incomplete (terms : List Term) : Prop :=
  ∃ source others, Term.withoutTheoryAll terms = source :: others ∧ source.isExternal = false ∧
    ∃ found, source.Reaches found ∧ found.LacksParents

/-- Terms that can be read have their citations unless they are incomplete. -/
theorem citations_eq_error_iff {terms : List Term} {problem : Problem} :
    citations terms = .error problem ↔ problem = .noParents ∧ Incomplete terms := by
  unfold citations Incomplete
  -- Only the first term counts, and only if it is not external.
  cases Term.withoutTheoryAll terms with
  | nil => simp
  | cons source others =>
    have search := Term.cited?_eq_none_iff.1 source
    simp only [List.cons.injEq, exists_eq_left', exists_and_left, and_assoc, ← search]
    by_cases external : source.isExternal = true
    · simp [external]
    · cases source.cited? <;> simp [external, eq_comm]

/-- A justification has no parents to give if it cannot be read to its end or is incomplete. -/
theorem parents_eq_error_iff {justification : String} {fault : Fault} :
    parents justification = .error fault ↔
      (∃ problem, readAll justification.toList = .error problem ∧
        fault = problem.fault justification) ∨
      ∃ terms, readAll justification.toList = .ok terms ∧ Incomplete terms ∧
        fault = Problem.noParents.fault justification := by
  cases read : readAll justification.toList with
  | error problem =>
    have given : parents justification = .error (problem.fault justification) := by
      rw [parents, read]
      rfl
    simp [given, eq_comm]
  | ok terms =>
    -- What can be read is searched for names.
    cases cited : citations terms with
    | ok names =>
      have given : parents justification = .ok names := by
        rw [parents, read]
        exact congrArg (Except.mapError (Problem.fault justification)) cited
      -- A justification that lacks something would have been a fault.
      have complete : ¬ Incomplete terms := by
        intro lacks
        rw [citations_eq_error_iff.mpr ⟨rfl, lacks⟩] at cited
        cases cited
      simp [given, complete]
    | error problem =>
      obtain ⟨rfl, lacks⟩ := citations_eq_error_iff.mp cited
      have given : parents justification = .error (Problem.noParents.fault justification) := by
        rw [parents, read]
        exact congrArg (Except.mapError (Problem.fault justification)) cited
      simp [given, lacks, eq_comm]

end Retrace.Justification
