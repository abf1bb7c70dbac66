import Mathlib.Data.List.Induction
import Retrace.Proofs.Draft

/-!
The draft of a trace, read off its clauses: the theory, the conjecture, the conclusion of the lemma
and the statements of the innermost block.
-/

namespace Retrace.Draft

/-- The conjecture that is the conclusion of the lemma, if the lemma has one. -/
def conclusion? : Draft → Option Clause
  | gathering _ => none
  | refuting _ conjecture _ => conjecture

/-- The statements of the innermost block. -/
def body : Draft → List Statement
  | gathering _ => []
  | refuting _ _ body => body

variable {step : Clause → Statement} {draft : Draft} {clause : Clause}

/-- Starting a script adds nothing to its theory. -/
theorem theory_begun (draft : Option Draft) : (begun draft).theory = draft.elim [] theory := by
  cases draft <;> rfl

/-- Starting a script states no conjecture. -/
theorem conjecture?_begun (draft : Option Draft) :
    (begun draft).conjecture? = draft.bind conjecture? := by
  cases draft <;> rfl

/-- Opening a block first changes nothing about further deductions. -/
@[simp] theorem deduce_refute (statements : List Statement) (draft : Draft) :
    draft.refute.deduce statements = draft.deduce statements := by
  cases draft <;> rfl

/-- Opening a block adds nothing to the theory. -/
theorem theory_refute (draft : Draft) : draft.refute.theory = draft.theory := by
  cases draft <;> simp [refute, theory]

/-- A draft with a block open refutes. -/
theorem refute_eq_refuting (draft : Draft) :
    ∃ premises conjecture body, draft.refute = .refuting premises conjecture body := by
  -- Falsity becomes the conclusion if there is none yet.
  cases draft with
  | gathering premises => exact ⟨premises, none, [], rfl⟩
  | refuting premises conjecture body => exact ⟨premises, conjecture, body, rfl⟩

/-- A further clause joins the theory if it is an axiom or a definition. -/
theorem theory_receive (steps : ∀ clause, (step clause).isStep = true) :
    (draft.receive step clause).theory =
      draft.theory ++ if clause.isStanding then [clause.name] else [] := by
  -- What a derived clause becomes is no assumption.
  have unsupposed := Statement.supposed?_of_isDeduction
    (Statement.isDeduction_of_isStep (steps clause))
  by_cases root : clause.isRoot = true
  · -- Only the roles of a standing assumption add to the theory.
    cases role : clause.role with
    | standing | definition =>
      cases draft <;> simp [receive, supply, assume, theory, root, role, Clause.isStanding,
        Statement.supposed?]
    | conjecture =>
      cases draft with
      | gathering premises =>
        simp [receive, supply, conclude, conjecture?, theory, root, role, Clause.isStanding]
      | refuting premises stated body =>
        cases found : (refuting premises stated body).conjecture? <;>
          simp [receive, supply, conclude, theory, root, role, found, Clause.isStanding,
            List.filterMap_cons, Statement.supposed?]
    | derived text => simp [receive, supply, root, role, Clause.isStanding]
  · cases draft <;> simp [receive, deduce, theory, root, Clause.isStanding, unsupposed]

/-- A further clause is the conjecture if it is one and there was none before. -/
theorem conjecture?_receive (steps : ∀ clause, (step clause).isStep = true) :
    (draft.receive step clause).conjecture? =
      draft.conjecture?.or (if clause.isConjecture then some clause.name else none) := by
  -- What a derived clause becomes denies nothing.
  have undenied := Statement.denied?_of_isDeduction
    (Statement.isDeduction_of_isStep (steps clause))
  by_cases root : clause.isRoot = true
  · cases role : clause.role with
    | standing | definition =>
      cases draft with
      | gathering premises =>
        simp [receive, supply, assume, conjecture?, root, role, Clause.isConjecture]
      | refuting premises stated body =>
        cases stated <;> simp [receive, supply, assume, conjecture?, root, role, Clause.isConjecture,
          List.findSome?_append, Statement.denied?]
    | conjecture =>
      cases draft with
      | gathering premises =>
        simp [receive, supply, conclude, conjecture?, root, role, Clause.isConjecture]
      | refuting premises stated body =>
        -- With a conjecture before it, the clause is refused.
        cases found : (refuting premises stated body).conjecture? with
        | some first => simp [receive, supply, root, role, found]
        | none =>
          cases stated with
          | some first => simp [conjecture?] at found
          | none =>
            have before : body.findSome? Statement.denied? = none := found
            simp [receive, supply, conclude, conjecture?, root, role, before, Clause.isConjecture,
              List.findSome?_append, Statement.denied?]
    | derived text => simp [receive, supply, root, role, Clause.isConjecture]
  · cases draft with
    | gathering premises => simp [receive, deduce, conjecture?, root, undenied, Clause.isConjecture]
    | refuting premises stated body =>
      cases stated <;> simp [receive, deduce, conjecture?, root, undenied, Clause.isConjecture,
        List.findSome?_append]

/-- The theory of a trace holds the names of its axioms and definitions, in order. -/
theorem theory_ofClauses (steps : ∀ clause, (step clause).isStep = true) (clauses : List Clause) :
    (begun (ofClauses step clauses)).theory =
      (clauses.filter Clause.isStanding).map Clause.name := by
  -- The clauses are received from left to right, so the induction takes off the last one.
  induction clauses using List.reverseRecOn with
  | nil => rfl
  | append_singleton clauses clause ih =>
    rw [ofClauses_snoc, theory_begun, Option.elim_some, theory_receive steps, ih, List.filter_append,
      List.map_append]
    cases standing : clause.isStanding <;> simp [standing]

/-- The conjecture of a trace is the first one among its clauses. -/
theorem conjecture?_ofClauses (steps : ∀ clause, (step clause).isStep = true)
    (clauses : List Clause) :
    (begun (ofClauses step clauses)).conjecture? =
      (clauses.find? Clause.isConjecture).map Clause.name := by
  induction clauses using List.reverseRecOn with
  | nil => rfl
  | append_singleton clauses clause ih =>
    rw [ofClauses_snoc, conjecture?_begun, Option.bind_some, conjecture?_receive steps, ih,
      List.find?_append]
    -- A later conjecture changes nothing if there was one before.
    cases conjecture : clause.isConjecture <;>
      cases clauses.find? Clause.isConjecture <;> simp [conjecture]

/-- Whether a draft has no block open yet. -/
def isGathering : Draft → Bool
  | gathering _ => true
  | refuting .. => false

/-- A draft goes on gathering as long as it receives roots other than conjectures. -/
theorem isGathering_receive :
    (draft.receive step clause).isGathering =
      (draft.isGathering && clause.isRoot && ! clause.isConjecture) := by
  by_cases root : clause.isRoot = true
  · cases role : clause.role with
    | conjecture =>
      -- While no block is open there is no conjecture either, so the first one is not refused.
      cases draft with
      | gathering premises =>
        simp [receive, root, supply, role, conjecture?, conclude, isGathering, Clause.isConjecture]
      | refuting premises stated body =>
        cases found : (refuting premises stated body).conjecture? <;>
          simp [receive, root, supply, role, found, conclude, isGathering]
    | standing | definition | derived =>
      cases draft <;>
        simp [receive, root, supply, role, assume, isGathering, Clause.isConjecture]
  · -- A derived clause opens a block.
    cases draft <;> simp [receive, root, deduce, isGathering]

/-- The lemma gets the conjecture as its conclusion only while the draft is gathering. -/
theorem conclusion?_receive :
    (draft.receive step clause).conclusion?.isSome =
      (draft.conclusion?.isSome || draft.isGathering && clause.isConjecture) := by
  -- Only a conjecture among the premises becomes the conclusion.
  by_cases root : clause.isRoot = true
  · cases role : clause.role with
    | conjecture =>
      cases draft with
      | gathering premises =>
        simp [receive, root, supply, role, conjecture?, conclude, conclusion?, isGathering,
          Clause.isConjecture]
      | refuting premises stated body =>
        -- Behind the first block a conjecture is refused or only denied.
        cases found : (refuting premises stated body).conjecture? <;>
          simp [receive, root, supply, role, found, conclude, conclusion?, isGathering]
    | standing | definition | derived =>
      cases draft <;>
        simp [receive, root, supply, role, assume, conclusion?, isGathering, Clause.isConjecture]
  · cases draft <;> simp [receive, root, deduce, conclusion?, isGathering, Clause.isConjecture]

/-- The draft of a trace gathers until the first derived clause or conjecture. -/
theorem isGathering_ofClauses (clauses : List Clause) :
    (begun (ofClauses step clauses)).isGathering =
      clauses.all fun clause => clause.isRoot && ! clause.isConjecture := by
  induction clauses using List.reverseRecOn with
  | nil => rfl
  | append_singleton clauses clause ih =>
    -- Once a block is open it stays open.
    rw [ofClauses_snoc, begun_some, isGathering_receive, ih, List.all_append, Bool.and_assoc]
    simp

/-- As long as there are roots only, a draft that does not gather has its conclusion. -/
theorem isGathering_or_conclusion? (step : Clause → Statement) {clauses : List Clause}
    (roots : ∀ clause ∈ clauses, clause.isRoot = true) :
    ((begun (ofClauses step clauses)).isGathering ||
      (begun (ofClauses step clauses)).conclusion?.isSome) = true := by
  induction clauses using List.reverseRecOn with
  | nil => rfl
  | append_singleton clauses clause ih =>
    have earlier := ih fun other member => roots other (List.mem_append_left _ member)
    have root := roots clause (by simp)
    rw [ofClauses_snoc, begun_some, isGathering_receive, conclusion?_receive, root]
    -- A conjecture among roots ends the gathering by becoming the conclusion.
    cases gathering : (begun (ofClauses step clauses)).isGathering <;>
      cases clause.isConjecture <;> simp_all

/-- A root adds at most an assumption to the body. -/
theorem body_supply (draft : Draft) (clause : Clause) :
    ∃ added, (draft.supply clause).body = draft.body ++ added ∧
      ∀ statement ∈ added, statement.isAssumption = true := by
  cases draft with
  | gathering premises =>
    -- What is supplied before a block is open becomes part of the lemma.
    refine ⟨[], ?_, by simp⟩
    cases role : clause.role <;> simp [supply, role, assume, conclude, conjecture?, body]
  | refuting premises conjecture body =>
    cases role : clause.role with
    | standing | definition =>
      exact ⟨[.supposition clause.name clause.formula], by simp [supply, role, assume, Draft.body],
        by simp [Statement.isAssumption]⟩
    | conjecture =>
      -- A conjecture that is not the first is refused, and adds nothing.
      cases found : (refuting premises conjecture body).conjecture? with
      | some first => exact ⟨[], by simp [supply, role, found], by simp⟩
      | none =>
        exact ⟨[.denial clause.name clause.formula],
          by simp [supply, role, found, conclude, Draft.body], by simp [Statement.isAssumption]⟩
    | derived text => exact ⟨[], by simp [supply, role], by simp⟩

/-- Deductions are added to the body. -/
@[simp] theorem body_deduce (statements : List Statement) (draft : Draft) :
    (draft.deduce statements).body = draft.body ++ statements := by
  cases draft <;> simp [deduce, body]

/-- A further clause adds assumptions to the body, or what it has become if it is derived. -/
theorem body_receive (step : Clause → Statement) (draft : Draft) (clause : Clause) :
    ∃ assumed, (∀ statement ∈ assumed, statement.isAssumption = true) ∧
      (draft.receive step clause).body =
        draft.body ++ assumed ++ if clause.isDerived then [step clause] else [] := by
  -- A root is not derived, and a derived clause assumes nothing.
  by_cases root : clause.isRoot = true
  · obtain ⟨added, grown, kinds⟩ := body_supply draft clause
    exact ⟨added, kinds, by simp [receive, Clause.isDerived, root, grown]⟩
  · exact ⟨[], by simp, by simp [receive, Clause.isDerived, root]⟩

/-- The body holds assumptions and what derived clauses have become. -/
theorem mem_body_ofClauses {clauses : List Clause} {statement : Statement}
    (member : statement ∈ (begun (ofClauses step clauses)).body) :
    statement.isAssumption = true ∨
      ∃ clause ∈ clauses, clause.isDerived = true ∧ statement = step clause := by
  induction clauses using List.reverseRecOn with
  | nil => simp [body] at member
  | append_singleton clauses clause ih =>
    -- What the last clause adds stands behind the rest.
    obtain ⟨assumed, kinds, grown⟩ := body_receive step (begun (ofClauses step clauses)) clause
    rw [ofClauses_snoc, begun_some, grown, List.mem_append, List.mem_append] at member
    rcases member with (old | new) | derived
    · rcases ih old with assumed | ⟨earlier, among, derived⟩
      · exact .inl assumed
      · exact .inr ⟨earlier, List.mem_append_left _ among, derived⟩
    · exact .inl (kinds statement new)
    · -- A derived clause adds its step, and a root none.
      split at derived
      · exact .inr ⟨clause, by simp, ‹_›, List.mem_singleton.mp derived⟩
      · cases derived

/-- The steps in the body are what the derived clauses have become, in order. -/
theorem steps_ofClauses (steps : ∀ clause, (step clause).isStep = true) (clauses : List Clause) :
    (begun (ofClauses step clauses)).body.filter Statement.isStep =
      (clauses.filter Clause.isDerived).map step := by
  induction clauses using List.reverseRecOn with
  | nil => rfl
  | append_singleton clauses clause ih =>
    obtain ⟨assumed, kinds, grown⟩ := body_receive step (begun (ofClauses step clauses)) clause
    -- No assumption is a step.
    have nothing : assumed.filter Statement.isStep = [] := by
      rw [List.filter_eq_nil_iff]
      intro statement member
      have kind := kinds statement member
      cases statement <;> simp_all [Statement.isAssumption, Statement.isStep]
    -- The clause adds a step exactly if it is derived.
    rw [ofClauses_snoc, begun_some, grown, List.filter_append, List.filter_append, ih, nothing,
      List.filter_append, List.map_append, List.append_nil]
    cases derived : clause.isDerived <;> simp [derived, steps]

/-- The statements around the body, up to the one that opens the innermost block. -/
def frame (label : Option String) : Draft → List Statement
  | gathering premises => (preamble label premises).map Line.statement
  | refuting premises conjecture _ =>
    (preamble label premises ++ opening conjecture).map Line.statement

/-- No deduction and no remark stands in the frame, and nothing verbatim. -/
theorem mem_frame {label : Option String} {statement : Statement}
    (member : statement ∈ draft.frame label) :
    statement.isDeduction = false ∧ statement.isRemark = false ∧ statement.isVerbatim = false := by
  -- The header and the premises are of other kinds.
  have preambled (premises : List Clause) :
      ∀ other ∈ (preamble label premises).map Line.statement, other.isDeduction = false ∧
        other.isRemark = false ∧ other.isVerbatim = false := by
    simp [preamble, Statement.isDeduction, Statement.isStep, Statement.isConclusion,
      Statement.isRemark, Statement.isVerbatim]
  cases draft with
  | gathering premises => exact preambled premises statement member
  | refuting premises conjecture body =>
    rw [frame, List.map_append, List.mem_append] at member
    rcases member with before | after
    · exact preambled premises statement before
    · -- The statements that open blocks are the same for every conjecture.
      revert after
      cases conjecture <;>
        simp +contextual [opening, or_imp, Statement.isDeduction, Statement.isStep,
          Statement.isConclusion, Statement.isRemark, Statement.isVerbatim]

/-- The ends of blocks all say the same. -/
theorem statements_blockEnds (count : Nat) :
    (blockEnds count).map Line.statement = List.replicate count .blockEnd := by
  -- The ends differ in their columns only.
  induction count with
  | zero => rfl
  | succ count ih => simp [blockEnds, ih, List.replicate_succ]

/-- The statements of a closed script are its frame, its body and the ends of its blocks. -/
theorem statements_closedLines (label : Option String) (draft : Draft) :
    (draft.closedLines label).map Line.statement =
      draft.frame label ++ (draft.body ++ List.replicate draft.openBlocks .blockEnd) := by
  -- Only the columns of the lines depend on the open blocks.
  cases draft <;>
    simp [closedLines, lines, frame, body, statements_blockEnds, Function.comp_def]

/-- What is read off deductions only is read off the body of a closed script. -/
theorem filterMap_closedLines {α : Type} (read : Statement → Option α)
    (skips : ∀ statement : Statement, statement.isDeduction = false → read statement = none)
    (label : Option String) (draft : Draft) :
    ((draft.closedLines label).map Line.statement).filterMap read = draft.body.filterMap read := by
  -- Around the body there is no deduction.
  have framed : (draft.frame label).filterMap read = [] :=
    List.filterMap_eq_nil_iff.mpr fun statement member => skips statement (mem_frame member).1
  have ends : (List.replicate draft.openBlocks Statement.blockEnd).filterMap read = [] :=
    List.filterMap_replicate_of_none (skips _ rfl)
  rw [statements_closedLines, List.filterMap_append, List.filterMap_append, framed, ends,
    List.nil_append, List.append_nil]

/-- What holds of deductions only selects statements from the body of a closed script. -/
theorem filter_closedLines (test : Statement → Bool)
    (skips : ∀ statement : Statement, statement.isDeduction = false → test statement = false)
    (label : Option String) (draft : Draft) :
    ((draft.closedLines label).map Line.statement).filter test = draft.body.filter test := by
  have read := filterMap_closedLines (Option.guard test)
    (fun statement other => by simp [Option.guard, skips statement other]) label draft
  rwa [List.filterMap_eq_filter] at read

end Retrace.Draft
