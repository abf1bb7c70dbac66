import Retrace.Proofs.Script
import Retrace.Proofs.Session.Run

/-!
The facts that a script introduces: each clause that is assumed or inferred becomes a fact of its
name, in the order of the trace.
-/

namespace Retrace

/-- The name of the fact that a statement introduces, if it introduces one. -/
def Statement.introduced? : Statement → Option String
  | premise name _ | supposition name _ | denial name _ | inference _ name _ => some name
  | rule number _ _ => some (ruleName number)
  | _ => none

/-- A statement introduces a root if it assumes the formula or its denial, and a derived clause if
it infers the formula from the parents. -/
def Clause.IntroducedBy (clause : Clause) (statement : Statement) : Prop :=
  if clause.isRoot then
    statement = .premise clause.name clause.formula ∨
      statement = .supposition clause.name clause.formula ∨
      statement = .denial clause.name clause.formula
  else statement = .inference clause.parents clause.name clause.formula

/-- What introduces a clause introduces its name. -/
theorem Clause.IntroducedBy.introduced? {clause : Clause} {statement : Statement}
    (introduces : clause.IntroducedBy statement) : statement.introduced? = some clause.name := by
  -- Each of the four statements names the clause.
  unfold IntroducedBy at introduces
  split at introduces
  · rcases introduces with rfl | rfl | rfl <;> rfl
  · rw [introduces]
    rfl

/-- The line that infers a clause: it starts from the parents and states the formula under the name. -/
def Clause.inferenceText (clause : Clause) : String :=
  "from " ++ " ".intercalate clause.parents ++ " have " ++ clause.name ++ ": \"" ++
    clause.formula ++ "\" by metis"

/-- The lines that introduce a clause: a root is assumed, by the lemma or in a block, or its denial is,
and a derived clause is inferred. -/
def Clause.IntroducedAs (clause : Clause) (text : String) : Prop :=
  if clause.isRoot then
    text = "assumes " ++ clause.name ++ ": \"" ++ clause.formula ++ "\"" ∨
      text = "assume " ++ clause.name ++ ": \"" ++ clause.formula ++ "\"" ∨
      text = "assume " ++ clause.name ++ ": \"~ (" ++ clause.formula ++ ")\""
  else text = clause.inferenceText

/-- An inference is written from the parents, the name and the formula of its clause. -/
theorem Clause.text_inference (clause : Clause) :
    (Statement.inference clause.parents clause.name clause.formula).text = clause.inferenceText := by
  -- Both are put together from the same characters.
  simp [Statement.text, inferenceText, Statement.spaced, Statement.inQuotes, Statement.tactic,
    ← String.toList_inj]

/-- What introduces a clause has a text that introduces it. -/
theorem Clause.IntroducedBy.text {clause : Clause} {statement : Statement}
    (introduces : clause.IntroducedBy statement) : clause.IntroducedAs statement.text := by
  unfold IntroducedBy at introduces
  unfold IntroducedAs
  split at introduces
  · rename_i root
    rw [if_pos root]
    -- The three assumptions differ in their first word and in the denial of the formula.
    refine introduces.imp ?_ (Or.imp ?_ ?_) <;>
      · rintro rfl
        simp [Statement.text, Statement.inQuotes, ← String.toList_inj]
  · rename_i derived
    rw [if_neg derived, introduces, clause.text_inference]

/-- What introduces a fact is read by the proof. -/
theorem Statement.read_of_introduces {statement : Statement}
    (introduces : statement.introduced?.isSome = true) :
    statement.isRemark = false ∧ statement.isVerbatim = false := by
  -- Neither remarks nor verbatim texts have a name to give.
  cases statement <;> simp_all [introduced?, isRemark, isVerbatim]

/-- What introduces a clause is written as a line that introduces it. -/
theorem Clause.IntroducedBy.written {clause : Clause} {line : Line}
    (introduces : clause.IntroducedBy line.statement) :
    clause.IntroducedAs (unindented line.written) := by
  have named : line.statement.introduced?.isSome = true := by rw [introduces.introduced?]; rfl
  obtain ⟨shown, own⟩ := Statement.read_of_introduces named
  -- The line is read by the proof, so that its text is all behind the column.
  rw [Line.unindented_written shown own]
  exact introduces.text

/-- Whether a method makes a clause a fact: a tableau only gives derived clauses a name. -/
def Method.introduces : Method → Clause → Bool
  | .direct, _ => true
  | .tableau, clause => clause.isRoot

/-- Direct chaining makes every clause a fact. -/
@[simp] theorem Method.filter_introduces_direct (clauses : List Clause) :
    clauses.filter (introduces .direct) = clauses :=
  List.filter_eq_self.mpr fun _ _ => rfl

namespace Script

/-- The statements of a script, in order. -/
def statements (script : Script) : List Statement :=
  script.lines.toList.map Line.statement

/-- What holds of no remark selects the same statements from a script and from its proof. -/
theorem filter_statements (script : Script) (test : Statement → Bool)
    (skips : ∀ text, test (.comment text) = false) :
    script.statements.filter test = (script.proofLines.map Line.statement).filter test := by
  -- A selection reads a statement off itself, if the test holds of it.
  have read := Script.filterMap_proofLines (Option.guard test)
    (fun text => by simp [Option.guard, skips]) script
  rw [← List.filterMap_map, ← List.filterMap_map, List.filterMap_eq_filter] at read
  exact read.symm

/-- Statements that the proof reads are written as their texts, behind the columns of their lines. -/
theorem filter_written (script : Script) (test : Statement → Bool)
    (read : ∀ statement : Statement, test statement = true →
      statement.isRemark = false ∧ statement.isVerbatim = false) :
    (script.lines.toList.filter (test ·.statement)).map (unindented ·.written) =
      (script.statements.filter test).map Statement.text := by
  rw [statements, List.filter_map, List.map_map]
  -- Line by line, what is left without the column is the text of the statement.
  refine List.map_congr_left fun line member => ?_
  obtain ⟨shown, own⟩ := read line.statement (List.mem_filter.mp member).2
  exact Line.unindented_written shown own

end Script

/-- The deductions of a closed script are what its derived clauses have become, and those that close
it. -/
theorem Session.Closed.filter_deductions {method : Method} {preferences : Preferences}
    {texts : List String} {clauses : List Clause} {session : Session}
    (closed : Closed method preferences texts clauses session) (test : Statement → Bool)
    (deduced : ∀ statement : Statement, test statement = true → statement.isDeduction = true) :
    session.script.statements.filter test =
      ((Clause.derivedOf clauses).map method.statement ++ method.closing session.graph).filter
        test := by
  -- The test says nothing of statements that are no deductions.
  have skips (statement : Statement) (other : statement.isDeduction = false) :
      test statement = false := by
    rw [Bool.eq_false_iff]
    exact fun holds => Bool.false_ne_true (other.symm.trans (deduced statement holds))
  -- Of the assumptions and steps in the body, only the steps are deductions.
  have steps (body : List Statement)
      (kinds : ∀ statement ∈ body, statement.isAssumption = true ∨ statement.isStep = true) :
      body.filter test = (body.filter Statement.isStep).filter test := by
    rw [List.filter_filter]
    refine List.filter_congr fun statement member => ?_
    rcases kinds statement member with assumed | step
    · rw [skips statement (by cases statement <;> first | rfl | cases assumed), Bool.false_and]
    · rw [step, Bool.and_true]
  rw [Script.filter_statements _ _ fun _ => skips _ rfl, closed.proofLines,
    Draft.filter_closedLines _ skips, Method.finalDraft, Draft.body_deduce, List.filter_append,
    steps, Draft.steps_ofClauses method.statement_isStep, closed.entered, List.filter_append]
  · rfl
  · -- The body consists of nothing else.
    intro statement member
    rcases Draft.mem_body_ofClauses member with assumed | ⟨clause, -, -, rfl⟩
    · exact .inl assumed
    · exact .inr (method.statement_isStep clause)

/-- Every deduction of a closed script is what a derived clause has become, or closes the script. -/
theorem Session.Closed.mem_deductions {method : Method} {preferences : Preferences}
    {texts : List String} {clauses : List Clause} {session : Session}
    (closed : Closed method preferences texts clauses session) {line : Line}
    (member : line ∈ session.script.lines.toList) (deduced : line.statement.isDeduction = true) :
    line.statement ∈ (Clause.derivedOf clauses).map method.statement ++
      method.closing session.graph := by
  have among : line.statement ∈ session.script.statements.filter Statement.isDeduction :=
    List.mem_filter.mpr ⟨List.mem_map_of_mem member, deduced⟩
  rw [closed.filter_deductions _ fun _ => id] at among
  exact (List.mem_filter.mp among).1

/-- The names that statements introduce are those of the statements that introduce a fact. -/
theorem filterMap_introduced? (statements : List Statement) :
    statements.filterMap Statement.introduced? =
      (statements.filter (·.introduced?.isSome)).filterMap Statement.introduced? := by
  -- The other statements have no name to give.
  rw [List.filterMap_filter]
  congr 1
  funext statement
  cases statement.introduced? <;> rfl

/-- Statements that introduce clauses one by one introduce their names in order. -/
theorem names_of_introductions {clauses : List Clause} {statements : List Statement}
    (introduces : List.Forall₂ Clause.IntroducedBy clauses
      (statements.filter (·.introduced?.isSome))) :
    statements.filterMap Statement.introduced? = clauses.map Clause.name := by
  rw [filterMap_introduced?]
  -- Clauses and statements are gone through side by side.
  generalize statements.filter (·.introduced?.isSome) = introductions at introduces
  induction introduces with
  | nil => rfl
  | cons first _ ih => simp [first.introduced?, ih]

namespace Draft

/-- The statements of a draft that introduce a fact, in order. -/
def introductions (draft : Draft) : List Statement :=
  (draft.frame none ++ draft.body).filter (·.introduced?.isSome)

/-- Further deductions add what they introduce themselves, and nothing else. -/
theorem introductions_deduce (statements : List Statement) (draft : Draft) :
    (draft.deduce statements).introductions =
      draft.introductions ++ statements.filter (·.introduced?.isSome) := by
  -- Opening a block for the deductions introduces nothing.
  cases draft <;>
    simp [introductions, frame, deduce, body, preamble, opening, Statement.introduced?]

/-- A root that is not refused adds the statement that introduces it. -/
theorem introductions_supply {draft : Draft} {clause : Clause} (root : clause.isRoot = true)
    (unrefused : draft.refusal? clause = none) :
    ∃ statement, clause.IntroducedBy statement ∧
      (draft.supply clause).introductions = draft.introductions ++ [statement] := by
  simp only [Clause.IntroducedBy, if_pos root]
  -- The role of the root and the state of the draft decide which of the three assumptions it is.
  cases role : clause.role with
  | standing | definition =>
    cases draft with
    | gathering premises =>
      refine ⟨.premise clause.name clause.formula, .inl rfl, ?_⟩
      simp [supply, role, assume, introductions, frame, body, preamble, Statement.introduced?]
    | refuting premises conjecture body =>
      refine ⟨.supposition clause.name clause.formula, .inr (.inl rfl), ?_⟩
      simp [supply, role, assume, introductions, frame, Draft.body, Statement.introduced?]
  | conjecture =>
    -- With a conjecture before it, the clause would be refused.
    have first : draft.conjecture? = none := by simpa [refusal?, role] using unrefused
    refine ⟨.denial clause.name clause.formula, .inr (.inr rfl), ?_⟩
    cases draft <;>
      simp [supply, role, first, conclude, introductions, frame, body, preamble, opening,
        Statement.introduced?]
  | derived text => simp [refusal?, role] at unrefused

/-- A clause that is not refused adds the statement that introduces it, if the method makes it a
fact. -/
theorem introductions_receive {method : Method} {draft : Draft} {clause : Clause}
    (accepted : clause.isRoot = true → draft.refusal? clause = none) :
    ∃ added, List.Forall₂ Clause.IntroducedBy ([clause].filter method.introduces) added ∧
      (draft.receive method.statement clause).introductions = draft.introductions ++ added := by
  -- Roots are told by their roles, and a derived clause by having parents.
  by_cases root : clause.isRoot = true
  · obtain ⟨statement, introduces, grown⟩ := introductions_supply root (accepted root)
    have kept : method.introduces clause = true := by cases method <;> simp [Method.introduces, root]
    exact ⟨[statement], by simpa [kept] using introduces, by simpa [receive, root] using grown⟩
  · simp only [receive, root, Bool.false_eq_true, if_false, introductions_deduce]
    refine ⟨_, ?_, rfl⟩
    -- Only an inference makes a derived clause a fact.
    cases method with
    | direct => simp [Method.statement, Statement.introduced?, Clause.IntroducedBy, root]
    | tableau => simp [Method.introduces, Method.statement, Statement.introduced?, root]

/-- The clauses that a method makes facts are introduced one by one, if none is refused. -/
theorem introductions_ofClauses (method : Method) {clauses : List Clause}
    (suited : Clause.Suited clauses) :
    List.Forall₂ Clause.IntroducedBy (clauses.filter method.introduces)
      (begun (ofClauses method.statement clauses)).introductions := by
  induction clauses using List.reverseRecOn with
  | nil => simp [introductions, frame, body, preamble, Statement.introduced?]
  | append_singleton clauses clause ih =>
    -- The last clause is not refused, so it is introduced behind the others.
    have accepted (root : clause.isRoot = true) :
        (begun (ofClauses method.statement clauses)).refusal? clause = none := by
      rw [refusal?_ofClauses method clauses root]
      exact suited clauses clause [] rfl
    obtain ⟨added, introduces, grown⟩ := introductions_receive accepted
    rw [ofClauses_snoc, begun_some, grown, List.filter_append]
    exact List.rel_append (ih suited.initial) introduces

/-- The name of the lemma is no fact of the proof. -/
theorem introductions_frame (label : Option String) (draft : Draft) :
    (draft.frame label).filter (·.introduced?.isSome) =
      (draft.frame none).filter (·.introduced?.isSome) := by
  cases draft <;> simp [frame, preamble, Statement.introduced?]

/-- The statements of a closed script that introduce a fact are those of its draft. -/
theorem introductions_closedLines (label : Option String) (draft : Draft) :
    ((draft.closedLines label).map Line.statement).filter (·.introduced?.isSome) =
      draft.introductions := by
  -- The ends of blocks introduce nothing.
  have ends : (List.replicate draft.openBlocks Statement.blockEnd).filter
      (·.introduced?.isSome) = [] :=
    List.filter_replicate_of_neg (by simp [Statement.introduced?])
  rw [statements_closedLines, introductions, List.filter_append, List.filter_append, ends,
    introductions_frame, List.append_nil, List.filter_append]

end Draft

/-- The statements of a closed script that introduce a fact are those of the draft of its clauses, and
those among the deductions that close it. -/
theorem Session.Closed.introductions {method : Method} {preferences : Preferences}
    {texts : List String} {clauses : List Clause} {session : Session}
    (closed : Closed method preferences texts clauses session) :
    session.script.statements.filter (·.introduced?.isSome) =
      (Draft.begun (Draft.ofClauses method.statement clauses)).introductions ++
        (method.closing session.graph).filter (·.introduced?.isSome) := by
  -- All lines of the proof are those of the draft and of its ends.
  rw [Script.filter_statements _ _ fun _ => rfl, closed.proofLines, Draft.introductions_closedLines,
    Method.finalDraft, Draft.introductions_deduce, closed.entered]

end Retrace
