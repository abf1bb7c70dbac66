import Retrace.Proofs.Chaining.Scoping

/-!
The conclusion of a script of direct chaining. Once a step has been written, falsity is concluded from
the fact before it, which is the fact that the last clause of the trace has become.
-/

namespace Retrace

/-- The clause that the last of several introductions is due to is the last clause. -/
theorem Clause.exists_introducedBy_last {clauses : List Clause} {front : List Statement}
    {statement : Statement}
    (introduces : List.Forall₂ IntroducedBy clauses (front ++ [statement])) :
    ∃ clause, clauses.getLast? = some clause ∧ clause.IntroducedBy statement := by
  rw [← List.forall₂_reverse_iff, List.reverse_append, List.reverse_singleton,
    List.singleton_append, List.forall₂_cons_right_iff] at introduces
  obtain ⟨clause, before, introduced, -, split⟩ := introduces
  rw [List.reverse_eq_cons_iff] at split
  exact ⟨clause, by rw [split, List.getLast?_concat], introduced⟩

/-- A clause is introduced by the inference of a derived one only if it has the same name and is
derived. -/
theorem Clause.IntroducedBy.inference_iff {clauses : List Clause} {clause final : Clause}
    {statement : Statement} (introduced : clause.IntroducedBy statement) (ordered : Ordered clauses)
    (member : clause ∈ clauses) (derived : final ∈ derivedOf clauses) :
    statement = .inference final.parents final.name final.formula ↔ clause = final := by
  obtain ⟨among, kind⟩ := List.mem_filter.mp derived
  constructor
  · rintro rfl
    -- What introduces a clause has its name, and names are distinct.
    have named := introduced.introduced?
    exact ordered.eq_of_name member among (Option.some.inj named).symm
  · rintro rfl
    have other : ¬ clause.isRoot = true := by simpa [isDerived] using kind
    simpa only [IntroducedBy, if_neg other] using introduced

namespace Chaining

variable {preferences : Preferences} {session : Session}

/-- In the body of a draft of direct chaining, every statement introduces a clause, and none is a
conclusion. -/
theorem introduced?_of_mem_body {clauses : List Clause} {statement : Statement}
    (member : statement ∈ (Draft.begun (Draft.ofClauses (Method.statement .direct) clauses)).body) :
    statement.introduced?.isSome = true ∧ statement.isConclusion = false := by
  rcases Draft.mem_body_ofClauses member with assumed | ⟨clause, -, -, rfl⟩
  · cases statement <;> simp_all [Statement.isAssumption, Statement.introduced?,
      Statement.isConclusion]
  · exact ⟨rfl, rfl⟩

/-- Once there is a derived clause, the body of the draft ends with what introduces the last clause of
the trace. -/
theorem exists_last_introduction {clauses : List Clause} (suited : Clause.Suited clauses)
    (derives : Clause.derivedOf clauses ≠ []) :
    ∃ before chained last,
      (Draft.begun (Draft.ofClauses (Method.statement .direct) clauses)).body =
          before ++ [chained] ∧
        clauses.getLast? = some last ∧ last.IntroducedBy chained := by
  have kinds (statement : Statement) := @introduced?_of_mem_body clauses statement
  have introduces := Draft.introductions_ofClauses .direct suited
  have steps := Draft.steps_ofClauses (Method.statement_isStep .direct) clauses
  generalize Draft.begun (Draft.ofClauses (Method.statement .direct) clauses) = draft
    at kinds introduces steps
  rcases List.eq_nil_or_concat draft.body with none | ⟨before, chained, split⟩
  · -- The derived clauses have left steps.
    rw [none, List.filter_nil, eq_comm, List.map_eq_nil_iff] at steps
    exact absurd steps derives
  rw [List.concat_eq_append] at split
  -- All statements in the body introduce clauses, and they come last.
  rw [Method.filter_introduces_direct, Draft.introductions, List.filter_append,
    List.filter_eq_self.mpr fun statement among => (kinds statement among).1, split,
    ← List.append_assoc] at introduces
  obtain ⟨last, comes, introduced⟩ := Clause.exists_introducedBy_last introduces
  exact ⟨before, chained, last, split, comes, introduced⟩

/-- An accepted trace with a derived clause ends in a conclusion from the fact before it. This is the
fact of the last clause of the trace: the inference of the last derived clause exactly if no root comes
after it, and otherwise what the last of these roots assumes. -/
theorem conclusion_follows_last {trace : String} {summary : Summary} {final : Clause}
    (accepted : Session.runText trace (Session.new .direct preferences none) =
      .ok summary session)
    (derived : (Clause.derivedOf (Clause.onLines 1 (Session.textLines trace))).getLast? =
      some final) :
    ∃ front chained last blocks,
      session.script.proofLines.map Line.statement =
          front ++ chained :: .conclusion true :: List.replicate blocks .blockEnd ∧
        (∀ statement ∈ chained :: front, statement.isConclusion = false) ∧
        (Clause.onLines 1 (Session.textLines trace)).getLast? = some last ∧
        last.IntroducedBy chained ∧
        (chained = .inference final.parents final.name final.formula ↔ last = final) := by
  obtain ⟨closed, suited⟩ := Session.closed_of_runText accepted
  generalize Clause.onLines 1 (Session.textLines trace) = clauses at closed suited derived
  have member := List.mem_of_getLast? derived
  have derives : Clause.derivedOf clauses ≠ [] := List.ne_nil_of_mem member
  have concludes : Method.closing .direct session.graph = [.conclusion true] := by
    simp [Method.closing, closed.entered, derives]
  obtain ⟨before, chained, last, split, comes, introduced⟩ := exists_last_introduction suited derives
  let drafted := Method.finalDraft .direct session.graph
  refine ⟨drafted.frame preferences.label ++ before, chained, last, drafted.openBlocks, ?_, ?_, comes,
    introduced, introduced.inference_iff closed.ordered (List.mem_of_getLast? comes) member⟩
  · -- The last introduction stands right in front of the conclusion.
    have body : drafted.body = before ++ [chained] ++ [.conclusion true] := by
      rw [← split, ← concludes, ← closed.entered]
      exact Draft.body_deduce _ _
    rw [closed.proofLines, Draft.statements_closedLines, body]
    simp [drafted]
  · -- What stands around the body concludes nothing, and neither does what introduces a clause.
    intro statement among
    have inside : statement ∈ before ++ [chained] ∨ statement ∈ drafted.frame preferences.label := by
      simp only [List.mem_cons, List.mem_append, List.not_mem_nil, or_false] at among ⊢
      tauto
    rcases inside with stated | framed
    · exact (introduced?_of_mem_body (split ▸ stated)).2
    · exact (Statement.isDeduction_eq_false_iff.mp (Draft.mem_frame framed).1).2

/-- In the script for the sample, falsity is concluded from the inference of the last clause. -/
theorem conclusion_follows_last_sample :
    ∃ summary session front blocks,
      Session.runText Session.sample (Session.new .direct {} none) = .ok summary session ∧
        session.script.proofLines.map Line.statement =
          front ++ .inference ["a", "b"] "c" "r" :: .conclusion true ::
            List.replicate blocks .blockEnd := by
  obtain ⟨summary, session, accepted⟩ := Session.runText_sample .direct
  -- The last derived clause of the sample is its last clause.
  have inferred : ((Clause.derivedOf (Clause.onLines 1 (Session.textLines Session.sample))).getLast?.map
      fun final => Statement.inference final.parents final.name final.formula) =
        some (.inference ["a", "b"] "c" "r") := by
    decide +kernel
  have same : (Clause.onLines 1 (Session.textLines Session.sample)).getLast? =
      (Clause.derivedOf (Clause.onLines 1 (Session.textLines Session.sample))).getLast? := by
    decide +kernel
  obtain ⟨final, derived, shape⟩ := Option.map_eq_some_iff.mp inferred
  obtain ⟨front, chained, last, blocks, lines, -, comes, -, chains⟩ :=
    conclusion_follows_last accepted derived
  -- So no root comes after the last derived clause, and the line in front is its inference.
  rw [same, derived] at comes
  rw [chains.mpr (Option.some.inj comes).symm, shape] at lines
  exact ⟨summary, session, front, blocks, accepted, lines⟩

/-- A trace in which an axiom comes after the derived clause. -/
def lateAxiom : String :=
  "cnf(a,axiom,p,file(f)).\ncnf(b,plain,$false,[a]).\ncnf(c,axiom,q,file(f))."

/-- In the script for this trace, falsity is concluded from the axiom and not from the only
inference. -/
theorem conclusion_lateAxiom :
    ∃ summary session,
      Session.runText lateAxiom (Session.new .direct {} none) = .ok summary session ∧
        session.script.statements.filter Statement.isStep = [.inference ["a"] "b" "False"] ∧
        session.script.proofLines.map Line.statement =
          [.header none, .premise "a" "p", .absurdGoal, .plainBlock, .inference ["a"] "b" "False",
            .supposition "c" "q", .conclusion true, .blockEnd] := by
  have left : Session.leaves .direct lateAxiom (fun session =>
      decide (session.script.statements.filter Statement.isStep = [.inference ["a"] "b" "False"] ∧
        session.script.proofLines.map Line.statement =
          [.header none, .premise "a" "p", .absurdGoal, .plainBlock, .inference ["a"] "b" "False",
            .supposition "c" "q", .conclusion true, .blockEnd])) = true := by
    decide +kernel
  -- The run is evaluated once, together with all that is said of its script.
  obtain ⟨summary, session, accepted, found⟩ := Session.runText_of_leaves left
  exact ⟨summary, session, accepted, of_decide_eq_true found⟩

end Chaining

end Retrace
