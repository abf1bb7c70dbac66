import Retrace.Proofs.Draft.Introductions
import Retrace.Proofs.Script.Quotation
import Retrace.Proofs.Tableau.ClosedForm

/-!
What stands in the quotations of a closed script: the name and the formula of every clause of the
trace, and beside them only the names of rules.
-/

namespace Retrace

namespace Statement

/-- The texts in the quotations among several statements. -/
def quotedTexts (statements : List Statement) : List String :=
  (statements.filter isQuotation).flatMap texts

/-- No statements quote nothing. -/
@[simp] theorem quotedTexts_nil : quotedTexts [] = [] :=
  rfl

/-- A statement in front adds its texts if it is a quotation. -/
@[simp] theorem quotedTexts_cons (statement : Statement) (others : List Statement) :
    quotedTexts (statement :: others) =
      (if statement.isQuotation then statement.texts else []) ++ quotedTexts others := by
  cases quotes : statement.isQuotation <;> simp [quotedTexts, quotes]

/-- Statements in a row quote what each of them quotes. -/
@[simp] theorem quotedTexts_append (first others : List Statement) :
    quotedTexts (first ++ others) = quotedTexts first ++ quotedTexts others := by
  simp [quotedTexts]

/-- A text is quoted if some quotation holds it. -/
theorem mem_quotedTexts {statements : List Statement} {text : String} :
    text ∈ quotedTexts statements ↔
      ∃ statement ∈ statements, statement.isQuotation = true ∧ text ∈ statement.texts := by
  simp [quotedTexts, and_assoc]

/-- Remarks quote nothing. -/
theorem mem_quotedTexts_script {script : Script} {text : String} :
    text ∈ quotedTexts script.statements ↔
      text ∈ quotedTexts (script.proofLines.map Line.statement) := by
  rw [quotedTexts, Script.filter_statements _ _ fun _ => rfl, ← quotedTexts]

end Statement

namespace Draft

open Statement (quotedTexts isQuotation)

/-- The texts in the quotations of a draft. -/
def quoted (draft : Draft) : List String :=
  quotedTexts (draft.frame none ++ draft.body)

variable {draft : Draft} {clause : Clause} {text : String}

/-- Deductions add what they quote. -/
theorem quoted_deduce (statements : List Statement) (draft : Draft) :
    (draft.deduce statements).quoted = draft.quoted ++ quotedTexts statements := by
  -- Opening a block for the deductions quotes nothing.
  cases draft <;>
    simp [quoted, frame, deduce, body, preamble, opening, isQuotation]

/-- A root that is not refused adds its name and its formula. -/
theorem mem_quoted_supply (unrefused : draft.refusal? clause = none) :
    text ∈ (draft.supply clause).quoted ↔
      text ∈ draft.quoted ∨ text = clause.name ∨ text = clause.formula := by
  cases role : clause.role with
  | standing | definition =>
    cases draft <;>
      simp [supply, role, assume, quoted, frame, body, preamble, isQuotation,
        Statement.texts, or_assoc]
  | conjecture =>
    -- With a conjecture before it, the clause would be refused.
    have first : draft.conjecture? = none := by simpa [refusal?, role] using unrefused
    cases draft with
    | gathering premises =>
      -- The formula is quoted twice: as the conclusion, and where it is denied.
      simp [supply, role, first, conclude, quoted, frame, body, preamble, opening, isQuotation,
        Statement.texts]
      tauto
    | refuting premises conjecture body =>
      simp [supply, role, first, conclude, quoted, frame, Draft.body, isQuotation, Statement.texts,
        or_assoc]
  | derived other => simp [refusal?, role] at unrefused

/-- A clause that is not refused adds its name and its formula, and its parents if it is proved from
them. -/
theorem mem_quoted_receive {method : Method}
    (accepted : clause.isRoot = true → draft.refusal? clause = none) :
    text ∈ (draft.receive method.statement clause).quoted ↔
      text ∈ draft.quoted ∨ text = clause.name ∨ text = clause.formula ∨
        method = .direct ∧ text ∈ clause.parents := by
  by_cases root : clause.isRoot = true
  · -- A root has no parents.
    have parents : clause.parents = [] := List.isEmpty_iff.mp root
    simp [receive, root, mem_quoted_supply (accepted root), parents]
  · rw [receive, if_neg root, quoted_deduce, List.mem_append]
    -- A derived clause is inferred from its parents or abbreviated by its name.
    cases method with
    | direct =>
      simp [Method.statement, isQuotation, Statement.texts]
      tauto
    | tableau => simp [Method.statement, isQuotation, Statement.texts]

/-- The draft of clauses none of which is refused quotes their names and their formulas, and nothing
else but parents. -/
theorem mem_quoted_ofClauses (method : Method) {clauses : List Clause}
    (suited : Clause.Suited clauses) :
    text ∈ (begun (ofClauses method.statement clauses)).quoted ↔
      ∃ clause ∈ clauses, text = clause.name ∨ text = clause.formula ∨
        method = .direct ∧ text ∈ clause.parents := by
  induction clauses using List.reverseRecOn with
  | nil => simp [quoted, frame, body, preamble, isQuotation]
  | append_singleton clauses clause ih =>
    -- The last clause is not refused, so it adds its texts to those of the others.
    have accepted (root : clause.isRoot = true) :
        (begun (ofClauses method.statement clauses)).refusal? clause = none := by
      rw [refusal?_ofClauses method clauses root]
      exact suited clauses clause [] rfl
    rw [ofClauses_snoc, begun_some, mem_quoted_receive accepted, ih suited.initial]
    simp [or_and_right, exists_or]

/-- The header and the ends of the blocks quote nothing. -/
theorem quotedTexts_closedLines (label : Option String) (draft : Draft) :
    quotedTexts ((draft.closedLines label).map Line.statement) = draft.quoted := by
  -- A label changes the header only.
  have framed : quotedTexts (draft.frame label) = quotedTexts (draft.frame none) := by
    cases draft <;> simp [frame, preamble, isQuotation]
  have ends (count : Nat) : quotedTexts (List.replicate count .blockEnd) = [] := by
    induction count with
    | zero => rfl
    | succ count ih => simp [List.replicate_succ, isQuotation, ih]
  rw [statements_closedLines, quoted, Statement.quotedTexts_append, Statement.quotedTexts_append,
    Statement.quotedTexts_append, framed, ends, List.append_nil]

end Draft

namespace Tableau

variable {clauses : List Clause}

/-- A rule is worded with names of clauses and the name of the rule before it. -/
theorem mem_texts_ruleNumbered {number : Nat} {text : String}
    (member : text ∈ (ruleNumbered clauses number).texts) :
    (∃ clause ∈ clauses, text = clause.name) ∨ ∃ number, text = Statement.ruleName number := by
  rcases List.mem_append.mp member with premise | fact
  · -- The premises are named after clauses.
    obtain ⟨clause, among, rfl⟩ := List.mem_map.mp premise
    refine .inl ⟨clause, ?_, rfl⟩
    -- A premise is in the core or still waits.
    rcases List.mem_append.mp among with core | waiting
    · exact mem_of_mem_coreClauses core
    · exact (List.mem_filter.mp (List.mem_of_mem_take waiting)).1
  · rcases List.mem_append.mp fact with earlier | theoretical
    · split at earlier
      · exact .inr ⟨number - 1, List.mem_singleton.mp earlier⟩
      · cases earlier
    · obtain ⟨clause, standing, rfl⟩ := List.mem_map.mp theoretical
      exact .inl ⟨clause, (List.mem_filter.mp standing).1, rfl⟩

end Tableau

/-- The deductions that close a script quote names of clauses and of rules only. -/
theorem Method.mem_quotedTexts_closing {method : Method} {graph : Graph} {text : String}
    (ordered : Clause.Ordered graph.toList)
    (quoted : text ∈ Statement.quotedTexts (method.closing graph)) :
    (∃ clause ∈ graph.toList, text = clause.name) ∨
      ∃ number, text = Statement.ruleName number := by
  cases method with
  | direct => cases quoted
  | tableau =>
    obtain ⟨statement, among, quotes, held⟩ := Statement.mem_quotedTexts.mp quoted
    by_cases underived : Clause.derivedOf graph.toList = []
    · -- Without a derived clause there is no rule.
      rw [Tableau.closing_of_underived underived, List.mem_singleton] at among
      rw [among] at held
      cases held
    · -- A rule quotes the names of its premises, and the conclusion quotes nothing.
      rw [Tableau.closing_eq ordered underived, List.mem_append, List.mem_singleton] at among
      rcases among with rule | rfl
      · obtain ⟨number, -, rfl⟩ := List.mem_map.mp rule
        exact Tableau.mem_texts_ruleNumbered held
      · cases quotes

/-- The quotations of a closed script hold the names and the formulas of its clauses, and beside them
names of rules only. -/
theorem Session.Closed.quotedTexts {method : Method} {preferences : Preferences}
    {texts : List String} {clauses : List Clause} {session : Session}
    (closed : Session.Closed method preferences texts clauses session)
    (suited : Clause.Suited clauses) :
    (∀ clause ∈ clauses, clause.name ∈ Statement.quotedTexts session.script.statements ∧
        clause.formula ∈ Statement.quotedTexts session.script.statements) ∧
      ∀ text ∈ Statement.quotedTexts session.script.statements,
        (∃ clause ∈ clauses, text = clause.name ∨ text = clause.formula) ∨
          ∃ number, text = Statement.ruleName number := by
  have ordered := closed.ordered
  obtain rfl := closed.entered
  -- The lines of the proof are those of the draft, and the deductions stand at its end.
  have told (text : String) : text ∈ Statement.quotedTexts session.script.statements ↔
      (∃ clause ∈ session.graph.toList, text = clause.name ∨ text = clause.formula ∨
        method = .direct ∧ text ∈ clause.parents) ∨
        text ∈ Statement.quotedTexts (method.closing session.graph) := by
    rw [Statement.mem_quotedTexts_script, closed.proofLines, Draft.quotedTexts_closedLines,
      Method.finalDraft, Draft.quoted_deduce, List.mem_append,
      Draft.mem_quoted_ofClauses method suited]
  refine ⟨fun clause member => ⟨?_, ?_⟩, fun text quoted => ?_⟩
  · exact (told _).mpr (.inl ⟨clause, member, .inl rfl⟩)
  · exact (told _).mpr (.inl ⟨clause, member, .inr (.inl rfl)⟩)
  · rcases (told text).mp quoted with ⟨clause, member, rfl | rfl | ⟨-, cited⟩⟩ | closing
    · exact .inl ⟨clause, member, .inl rfl⟩
    · exact .inl ⟨clause, member, .inr rfl⟩
    · -- A parent is the name of an earlier clause.
      obtain ⟨before, after, split⟩ := List.append_of_mem member
      obtain ⟨parent, earlier, named⟩ :=
        List.mem_map.mp (ordered.earlier before clause after split text cited)
      exact .inl ⟨parent, split ▸ List.mem_append_left _ earlier, .inl named.symm⟩
    · rcases Method.mem_quotedTexts_closing ordered closing with ⟨clause, member, rfl⟩ | rule
      · exact .inl ⟨clause, member, .inl rfl⟩
      · exact .inr rule

end Retrace
