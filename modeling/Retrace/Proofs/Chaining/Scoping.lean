import Retrace.Proofs.Draft.Introductions
import Retrace.Proofs.Script.Wording
import Retrace.Proofs.Session.Verbose

/-!
Scripts of direct chaining are well scoped: every clause of the trace is introduced by one line, and
no line cites a name that is not introduced before it.
-/

namespace Retrace.Chaining

variable {preferences : Preferences} {texts : List String} {clauses : List Clause}
  {session : Session}

/-- The clauses of an accepted trace are introduced one by one. -/
theorem introductions_of_closed
    (closed : Session.Closed .direct preferences texts clauses session)
    (suited : Clause.Suited clauses) :
    List.Forall₂ Clause.IntroducedBy clauses
      (session.script.statements.filter (·.introduced?.isSome)) := by
  rw [closed.introductions]
  -- The conclusion introduces nothing.
  simpa [Method.closing, Statement.introduced?] using
    Draft.introductions_ofClauses .direct suited

/-- The steps of a closed script are the inferences of the derived clauses, in order. -/
theorem steps_of_closed (closed : Session.Closed .direct preferences texts clauses session) :
    session.script.statements.filter Statement.isStep =
      (Clause.derivedOf clauses).map fun clause =>
        .inference clause.parents clause.name clause.formula := by
  -- Every derived clause has become a step, and the conclusion is none.
  have steps : ((Clause.derivedOf clauses).map (Method.statement .direct)).filter Statement.isStep =
      (Clause.derivedOf clauses).map (Method.statement .direct) :=
    List.filter_eq_self.mpr
      (List.forall_mem_map.mpr fun clause _ => Method.statement_isStep .direct clause)
  rw [closed.filter_deductions _ fun _ => Statement.isDeduction_of_isStep, List.filter_append, steps]
  simp [Method.closing, Statement.isStep, Method.statement]

/-- A line of a closed script is written as an inference exactly if it is a step. -/
theorem isInferenceText_of_closed
    (closed : Session.Closed .direct preferences texts clauses session) {line : Line}
    (member : line ∈ session.script.lines.toList) :
    isInferenceText line.written = line.statement.isStep := by
  have own := closed.isVerbatim_eq_false member
  -- Direct chaining abbreviates nothing and has no rules, and so no tips to conclude from.
  have kind (deduced : line.statement.isDeduction = true) :
      line.statement.isInference = true ∨ ∃ chained, line.statement = .conclusion chained := by
    have among := closed.mem_deductions member deduced
    rcases List.mem_append.mp among with step | last
    · obtain ⟨clause, -, same⟩ := List.mem_map.mp step
      exact .inl (by rw [← same]; rfl)
    · exact .inr ⟨_, List.mem_singleton.mp last⟩
  rw [Line.isInferenceText_written own]
  · -- Of the deductions of this method, only the inferences are steps.
    cases stated : line.statement <;>
      simp_all [Statement.isInference, Statement.isStep, Statement.isDeduction]
  · intro tips number same
    simp [same, Statement.isDeduction, Statement.isConclusion, Statement.isInference] at kind

/-- Where clauses are introduced one by one, each is introduced by some statement, and each statement
introduces some clause. -/
theorem exists_introduction {introductions : List Statement}
    (introduces : List.Forall₂ Clause.IntroducedBy clauses introductions) :
    (∀ clause ∈ clauses, ∃ statement ∈ introductions, clause.IntroducedBy statement) ∧
      ∀ statement ∈ introductions, ∃ clause ∈ clauses, clause.IntroducedBy statement := by
  -- The two lists are gone through side by side.
  induction introduces with
  | nil => simp
  | cons introduced _ ih =>
    obtain ⟨forth, back⟩ := ih
    -- The first clause goes with the first statement, and all others have their partners behind
    -- these.
    constructor
    · intro clause member
      rcases List.mem_cons.mp member with rfl | later
      · exact ⟨_, List.mem_cons_self, introduced⟩
      · obtain ⟨statement, among, introduced⟩ := forth clause later
        exact ⟨statement, List.mem_cons_of_mem _ among, introduced⟩
    · intro statement member
      rcases List.mem_cons.mp member with rfl | later
      · exact ⟨_, List.mem_cons_self, introduced⟩
      · obtain ⟨clause, among, introduced⟩ := back statement later
        exact ⟨clause, List.mem_cons_of_mem _ among, introduced⟩

/-- Of the lines of a closed script, one introduces a clause of the trace, and no other line introduces
its name. -/
theorem exists_line_of_closed
    (closed : Session.Closed .direct preferences texts clauses session)
    (suited : Clause.Suited clauses) {clause : Clause} (member : clause ∈ clauses) :
    ∃ before line after, session.script.lines.toList = before ++ line :: after ∧
      clause.IntroducedBy line.statement ∧
      ∀ other ∈ before ++ after, other.statement.introduced? ≠ some clause.name := by
  have introduces := introductions_of_closed closed suited
  have names := names_of_introductions introduces
  obtain ⟨statement, among, introduced⟩ := (exists_introduction introduces).1 clause member
  -- The statement that introduces the clause stands on some line of the script.
  obtain ⟨line, inside, rfl⟩ := List.mem_map.mp (List.mem_filter.mp among).1
  obtain ⟨before, after, split⟩ := List.append_of_mem inside
  refine ⟨before, line, after, split, introduced, ?_⟩
  -- Any other line that introduces the name would introduce it a second time.
  have distinct := closed.ordered.distinct
  rw [← names, Script.statements, split, List.map_append, List.map_cons, List.filterMap_append,
    List.filterMap_cons_some introduced.introduced?, List.nodup_append] at distinct
  intro other among same
  have introducing {lines : List Line} (held : other ∈ lines) :
      clause.name ∈ (lines.map Line.statement).filterMap Statement.introduced? :=
    List.mem_filterMap.mpr ⟨other.statement, List.mem_map_of_mem held, same⟩
  rcases List.mem_append.mp among with earlier | later
  · exact distinct.2.2 _ (introducing earlier) _ List.mem_cons_self rfl
  · exact (List.nodup_cons.mp distinct.2.1).1 (introducing later)

/-- A line of a closed script that infers a clause stands behind lines that introduce its parents. -/
theorem introduced_before_of_closed
    (closed : Session.Closed .direct preferences texts clauses session)
    (suited : Clause.Suited clauses) {before after : List Line} {line : Line}
    (split : session.script.lines.toList = before ++ line :: after) {clause : Clause}
    (member : clause ∈ clauses) (introduced : clause.IntroducedBy line.statement) :
    ∀ parent ∈ clause.parents, ∃ earlier ∈ before, ∃ known ∈ clauses,
      known.name = parent ∧ known.IntroducedBy earlier.statement := by
  intro parent cited
  have introduces := introductions_of_closed closed suited
  have names := names_of_introductions introduces
  have ordered := closed.ordered
  -- The clauses whose names are introduced before the line are those before the clause.
  rw [Script.statements, split, List.map_append, List.map_cons, List.filterMap_append,
    List.filterMap_cons_some introduced.introduced?] at names
  obtain ⟨front, back, rfl, earlier, rest⟩ := List.map_eq_append_iff.mp names.symm
  obtain ⟨found, others, rfl, named, -⟩ := List.map_eq_cons_iff.mp rest
  obtain rfl : found = clause := ordered.eq_of_name (by simp) member named
  have known := ordered.earlier front found others rfl parent cited
  rw [earlier] at known
  obtain ⟨statement, inside, gives⟩ := List.mem_filterMap.mp known
  obtain ⟨other, held, rfl⟩ := List.mem_map.mp inside
  -- The line found introduces a clause, which can only be the parent.
  have among : other.statement ∈ session.script.statements.filter (·.introduced?.isSome) := by
    refine List.mem_filter.mpr ⟨List.mem_map_of_mem ?_, by rw [gives]; rfl⟩
    rw [split]
    exact List.mem_append_left _ held
  obtain ⟨origin, source, introduces⟩ := (exists_introduction introduces).2 _ among
  exact ⟨other, held, origin, source, Option.some.inj (introduces.introduced?.symm.trans gives),
    introduces⟩

/-- The text of the script for an accepted trace consists of lines, and if the label fits on a line it
falls into them again. Every clause of the trace is introduced by exactly one line, which assumes it if
it is a root and infers it if it is derived. The lines written as inferences are the steps, and these
are the inferences of the derived clauses in the order of the trace, each from the parents of its
clause in the order of their citation, and behind lines that introduce these parents. -/
theorem lines_wellScoped {trace : String} {summary : Summary}
    (accepted : Session.runText trace (Session.new .direct preferences none) =
      .ok summary session) :
    let clauses := Clause.onLines 1 (Session.textLines trace)
    let lines := session.script.lines.toList
    session.script.text = String.join (lines.map fun line => line.written ++ "\n") ∧
      ((∀ label ∈ preferences.label, FitsLine label) →
        Script.textLines session.script.text = lines.map Line.written) ∧
      (∀ clause ∈ clauses, ∃ before line after, lines = before ++ line :: after ∧
        clause.IntroducedBy line.statement ∧ clause.IntroducedAs (unindented line.written) ∧
        ∀ other ∈ before ++ after, other.statement.introduced? ≠ some clause.name) ∧
      (∀ line ∈ lines, isInferenceText line.written = line.statement.isStep) ∧
      session.script.statements.filter Statement.isStep =
        (Clause.derivedOf clauses).map (fun clause =>
          .inference clause.parents clause.name clause.formula) ∧
      (lines.filter (isInferenceText ·.written)).map (unindented ·.written) =
        (Clause.derivedOf clauses).map Clause.inferenceText ∧
      ∀ before line after, lines = before ++ line :: after → isInferenceText line.written = true →
        ∃ clause ∈ Clause.derivedOf clauses, clause.IntroducedBy line.statement ∧
          unindented line.written = clause.inferenceText ∧
          ∀ parent ∈ clause.parents, ∃ earlier ∈ before, ∃ known ∈ clauses, known.name = parent ∧
            known.IntroducedBy earlier.statement ∧
            known.IntroducedAs (unindented earlier.written) := by
  intro clauses lines
  obtain ⟨closed, suited⟩ := Session.closed_of_runText accepted
  refine ⟨rfl, Session.textLines_of_runText accepted, fun clause member => ?_,
    fun line => isInferenceText_of_closed closed, steps_of_closed closed, ?_, ?_⟩
  · obtain ⟨before, line, after, split, introduced, alone⟩ :=
      exists_line_of_closed closed suited member
    exact ⟨before, line, after, split, introduced, introduced.written, alone⟩
  · -- The lines written as inferences are the steps, and these are told clause by clause.
    rw [List.filter_congr fun line member => isInferenceText_of_closed closed member,
      Script.filter_written _ _ fun statement step => ?_, steps_of_closed closed, List.map_map]
    · exact List.map_congr_left fun clause _ => clause.text_inference
    · cases statement <;> simp_all [Statement.isStep, Statement.isRemark, Statement.isVerbatim]
  · intro before line after split inferred
    have inside : line ∈ lines := by simp [split]
    rw [isInferenceText_of_closed closed inside] at inferred
    have step : line.statement ∈ session.script.statements.filter Statement.isStep :=
      List.mem_filter.mpr ⟨List.mem_map_of_mem inside, inferred⟩
    rw [steps_of_closed closed] at step
    obtain ⟨clause, derived, same⟩ := List.mem_map.mp step
    obtain ⟨member, kind⟩ := List.mem_filter.mp derived
    -- The line introduces the clause, and so it stands behind the lines of the parents.
    have child : ¬ clause.isRoot = true := by simpa [Clause.isDerived] using kind
    have introduced : clause.IntroducedBy line.statement := by
      rw [Clause.IntroducedBy, if_neg child, same]
    refine ⟨clause, derived, introduced, ?_, fun parent cited => ?_⟩
    · have written := introduced.written
      rwa [Clause.IntroducedAs, if_neg child] at written
    · obtain ⟨earlier, among, known, source, named, introduces⟩ :=
        introduced_before_of_closed closed suited split member introduced parent cited
      exact ⟨earlier, among, known, source, named, introduces, introduces.written⟩

/-- In the script for the sample, two lines infer a clause from clauses that stand before it. -/
theorem lines_wellScoped_sample :
    ∃ summary session,
      Session.runText Session.sample (Session.new .direct {} none) = .ok summary session ∧
        (session.script.lines.toList.filter (isInferenceText ·.written)).map
            (unindented ·.written) =
          ["from a have b: \"q\" by metis", "from a b have c: \"r\" by metis"] ∧
        ∀ before line after, session.script.lines.toList = before ++ line :: after →
          isInferenceText line.written = true →
          ∃ clause : Clause, unindented line.written = clause.inferenceText ∧
            ∀ parent ∈ clause.parents, ∃ earlier ∈ before, ∃ known : Clause,
              known.name = parent ∧ known.IntroducedAs (unindented earlier.written) := by
  obtain ⟨summary, session, accepted⟩ := Session.runText_sample .direct
  -- The derived clauses of the sample are read off its text.
  have inferred : (Clause.derivedOf (Clause.onLines 1 (Session.textLines Session.sample))).map
      Clause.inferenceText = ["from a have b: \"q\" by metis", "from a b have c: \"r\" by metis"] := by
    decide +kernel
  obtain ⟨-, -, -, -, -, inferences, cites⟩ := lines_wellScoped accepted
  refine ⟨summary, session, accepted, inferences.trans inferred, ?_⟩
  intro before line after split inference
  obtain ⟨clause, -, -, written, earlier⟩ := cites before line after split inference
  refine ⟨clause, written, fun parent cited => ?_⟩
  obtain ⟨first, among, known, -, named, -, introduces⟩ := earlier parent cited
  exact ⟨first, among, known, named, introduces⟩

end Retrace.Chaining
