import Retrace.Proofs.Draft.Trace
import Retrace.Proofs.Tableau.Drain
import Retrace.Reconstruction

/-!
Reconstructions follow the clauses that they have taken: what either method has written is the draft
of these clauses, and closing adds the deductions of the method and the ends of the blocks.
-/

namespace Retrace

/-- What a derived clause becomes. -/
def Method.statement : Method → Clause → Statement
  -- Direct chaining proves the clause from its parents.
  | .direct, clause => .inference clause.parents clause.name clause.formula
  -- A tableau gives the clause an abbreviation only.
  | .tableau, clause => .abbreviation clause.name clause.formula

/-- What a derived clause becomes is a step. -/
theorem Method.statement_isStep (method : Method) (clause : Clause) :
    (method.statement clause).isStep = true := by
  cases method <;> rfl

namespace Clause

/-- Why a clause has no place in a script behind the given clauses, if it has none. -/
def refusal? (earlier : List Clause) (clause : Clause) : Option Fault :=
  if clause.isRoot then
    match clause.role with
    | .standing | .definition => none
    | .conjecture => (earlier.find? isConjecture).map fun first =>
        .secondConjecture first.name clause.name
    | .derived role => some (.unsupportedRole clause.name role)
  -- Derived clauses are never refused.
  else none

/-- The derived clauses among several. -/
def derivedOf (clauses : List Clause) : List Clause :=
  clauses.filter isDerived

/-- The names of the axioms and definitions among several clauses. -/
def theoryOf (clauses : List Clause) : List String :=
  (clauses.filter isStanding).map name

/-- The names of the derived clauses, the latest first. -/
def waitingOf (clauses : List Clause) : List String :=
  ((derivedOf clauses).map name).reverse

end Clause

/-- The draft of the clauses of a trace gives the reason for which a root is refused. -/
theorem Draft.refusal?_ofClauses (method : Method) (clauses : List Clause) {clause : Clause}
    (root : clause.isRoot = true) :
    (begun (ofClauses method.statement clauses)).refusal? clause = clause.refusal? clauses := by
  have conjectured := conjecture?_ofClauses method.statement_isStep clauses
  -- Both ask for the same roles, and for the conjecture that came first.
  unfold Draft.refusal? Clause.refusal?
  rw [if_pos root]
  cases clause.role with
  | standing | definition | derived => rfl
  | conjecture =>
    rw [conjectured, Option.map_map]
    rfl

namespace Chaining

/-- What direct chaining and the clauses that it has taken have in common. -/
structure Follows (label : Option String) (remarks : List Statement) (clauses : List Clause)
    (chaining : Chaining) : Prop where
  shows : Outline.Shows label remarks (Draft.ofClauses (Method.statement .direct) clauses)
    chaining.outline
  steps : chaining.steps = (Clause.derivedOf clauses).length

end Chaining

namespace Tableau

/-- What a tableau and the clauses that it has taken have in common. -/
structure Follows (label : Option String) (remarks : List Statement) (clauses : List Clause)
    (tableau : Tableau) : Prop where
  shows : Outline.Shows label remarks (Draft.ofClauses (Method.statement .tableau) clauses)
    tableau.outline
  waiting : tableau.waiting = Clause.waitingOf clauses
  core : tableau.core = []
  rules : tableau.rules = 0

end Tableau

section Steps

variable {label : Option String} {remarks : List Statement} {clauses : List Clause}
  {clause : Clause}

/-- A name that no clause has yet is not in the theory either. -/
theorem Draft.fresh_theory (method : Method) (fresh : clause.name ∉ clauses.map Clause.name) :
    clause.name ∉ (begun (ofClauses method.statement clauses)).theory := by
  -- The theory holds names of the clauses only.
  rw [theory_ofClauses method.statement_isStep]
  intro member
  obtain ⟨other, kept, same⟩ := List.mem_map.mp member
  exact fresh (List.mem_map.mpr ⟨other, (List.mem_filter.mp kept).1, same⟩)

/-- The outline takes a root, and stops only if the root is refused. -/
theorem Outline.Shows.take_root {outline : Outline} (method : Method)
    (shown : Shows label remarks (Draft.ofClauses method.statement clauses) outline)
    (root : clause.isRoot = true) (fresh : clause.name ∉ clauses.map Clause.name) :
    ∃ begun after, Outline.start outline = .ok () begun ∧
      Shows label remarks (Draft.ofClauses method.statement (clauses ++ [clause])) after ∧
      Outline.root clause begun = match clause.refusal? clauses with
        | none => .ok () after
        | some fault => .error fault after := by
  -- The header comes first if it is not there yet.
  obtain ⟨begun, started, shows⟩ := shown.start
  obtain ⟨after, shows, done⟩ := shows.root (Draft.fresh_theory method fresh)
  rw [Draft.refusal?_ofClauses method clauses root] at done
  exact ⟨begun, after, started, by simpa [Draft.receive, root] using shows, done⟩

/-- The outline takes what a derived clause becomes. -/
theorem Outline.Shows.take_derived {outline : Outline} (method : Method)
    (shown : Shows label remarks (Draft.ofClauses method.statement clauses) outline)
    (derived : ¬ clause.isRoot = true) :
    ∃ begun opened, Outline.start outline = .ok () begun ∧
      Outline.ensureRefutation begun = .ok () opened ∧
      Outline.write (method.statement clause) opened =
        .ok () (opened.push (method.statement clause)) ∧
      Shows label remarks (Draft.ofClauses method.statement (clauses ++ [clause]))
        (opened.push (method.statement clause)) := by
  obtain ⟨begun, started, shows⟩ := shown.start
  have deduced := Statement.isDeduction_of_isStep (method.statement_isStep clause)
  -- A block is opened for the step if there is none.
  obtain ⟨opened, ensured, written, shows⟩ := shows.derive deduced
  exact ⟨begun, opened, started, ensured, written, by simpa [Draft.receive, derived] using shows⟩

/-- Direct chaining takes a clause of a new name, and stops only if the clause is refused. -/
theorem Chaining.Follows.step {chaining : Chaining}
    (follows : Follows label remarks clauses chaining)
    (fresh : clause.name ∉ clauses.map Clause.name) :
    ∃ after, Follows label remarks (clauses ++ [clause]) after ∧
      Chaining.step clause chaining = match clause.refusal? clauses with
        | none => .ok () after
        | some fault => .error fault after := by
  -- A root is up to the outline, and a derived clause needs an open block.
  by_cases root : clause.isRoot = true
  · obtain ⟨begun, outline, started, shows, done⟩ :=
      follows.shows.take_root .direct root fresh
    refine ⟨{ chaining with outline }, ⟨shows, ?_⟩, ?_⟩
    · simp [follows.steps, Clause.derivedOf, Clause.isDerived, root]
    · -- The outline stops exactly if the clause is refused.
      cases refused : clause.refusal? clauses <;>
        simp [Chaining.step, onOutline, Attempt.onPart, Attempt.embed, started, root, done, refused]
  · obtain ⟨begun, opened, started, ensured, written, shows⟩ :=
      follows.shows.take_derived .direct root
    refine ⟨⟨opened.push (Method.statement .direct clause), chaining.steps + 1⟩, ⟨shows, ?_⟩, ?_⟩
    · simp [follows.steps, Clause.derivedOf, Clause.isDerived, root]
    · -- A derived clause is always taken, and counted as a step.
      have accepted : clause.refusal? clauses = none := by simp [Clause.refusal?, root]
      have inferred : Outline.write (.inference clause.parents clause.name clause.formula) opened =
        .ok () (opened.push (Method.statement .direct clause)) := written
      simp [Chaining.step, onOutline, Attempt.onPart, Attempt.embed, started, root, ensured,
        inferred, accepted]

/-- A tableau takes a clause of a new name, and stops only if the clause is refused. -/
theorem Tableau.Follows.step {tableau : Tableau}
    (follows : Follows label remarks clauses tableau)
    (fresh : clause.name ∉ clauses.map Clause.name) :
    ∃ after, Follows label remarks (clauses ++ [clause]) after ∧
      Tableau.step clause tableau = match clause.refusal? clauses with
        | none => .ok () after
        | some fault => .error fault after := by
  -- Roots are taken as in direct chaining.
  by_cases root : clause.isRoot = true
  · obtain ⟨begun, outline, started, shows, done⟩ :=
      follows.shows.take_root .tableau root fresh
    refine ⟨{ tableau with outline }, ⟨shows, ?_, follows.core, follows.rules⟩, ?_⟩
    · simp [follows.waiting, Clause.waitingOf, Clause.derivedOf, Clause.isDerived, root]
    · cases refused : clause.refusal? clauses <;>
        simp [Tableau.step, onOutline, Attempt.onPart, Attempt.embed, started, root, done, refused]
  · obtain ⟨begun, opened, started, ensured, written, shows⟩ :=
      follows.shows.take_derived .tableau root
    -- The clause waits on top of those before it.
    refine ⟨{ tableau with
      outline := opened.push (Method.statement .tableau clause)
      waiting := clause.name :: tableau.waiting }, ⟨shows, ?_, follows.core, follows.rules⟩, ?_⟩
    · simp [follows.waiting, Clause.waitingOf, Clause.derivedOf, Clause.isDerived, root]
    · -- A derived clause is always taken.
      have accepted : clause.refusal? clauses = none := by simp [Clause.refusal?, root]
      have abbreviated : Outline.write (.abbreviation clause.name clause.formula) opened =
        .ok () (opened.push (Method.statement .tableau clause)) := written
      simp [Tableau.step, onOutline, Attempt.onPart, Attempt.embed, started, root, ensured,
        abbreviated, accepted]

end Steps

section Closing

variable {label : Option String} {remarks : List Statement} {graph : Graph}

/-- The deductions that close a script. -/
def Method.closing (method : Method) (graph : Graph) : List Statement :=
  match method with
  | .direct => [.conclusion (! (Clause.derivedOf graph.toList).isEmpty)]
  | .tableau => Tableau.closingStatements graph (Clause.theoryOf graph.toList)
      (Clause.waitingOf graph.toList)

/-- The draft of a script whose deductions are complete. -/
def Method.finalDraft (method : Method) (graph : Graph) : Draft :=
  (Draft.begun (Draft.ofClauses method.statement graph.toList)).deduce (method.closing graph)

/-- What is known of a script once it is closed. -/
def Method.report (method : Method) (graph : Graph) : Closing :=
  match method with
  | .direct => {}
  | .tableau =>
    let waiting := Clause.waitingOf graph.toList
    { rules := waiting.length
      core := Tableau.finalCore graph [] waiting
      coreSizes := Tableau.coreSizes graph [] waiting }

/-- Direct chaining closes its script. -/
theorem Chaining.Follows.finish {chaining : Chaining}
    (follows : Follows label remarks graph.toList chaining) :
    ∃ after, Chaining.finish chaining = .ok (Method.report .direct graph) after ∧
      after.outline.script.proofLines = (Method.finalDraft .direct graph).closedLines label ∧
      after.outline.script.remarks = remarks := by
  have steps : (chaining.steps != 0) = ! (Clause.derivedOf graph.toList).isEmpty := by
    rw [follows.steps]
    cases Clause.derivedOf graph.toList <;> rfl
  have deduced : (Statement.conclusion (chaining.steps != 0)).isDeduction = true := rfl
  -- The conclusion rests on the fact before it exactly if there is a derived clause.
  obtain ⟨opened, ensured, written, shows⟩ := follows.shows.derive deduced
  rw [steps] at written shows
  obtain ⟨after, closed, lines, kept⟩ := shows.close
  refine ⟨{ chaining with outline := after }, ?_, lines, kept⟩
  simp [Chaining.finish, onOutline, Attempt.onPart, Attempt.embed, ensured, steps,
    Outline.conclude, written, closed, Method.report]

/-- A tableau without waiting clauses closes its script at once. -/
theorem Tableau.Follows.finish_empty {tableau : Tableau}
    (follows : Follows label remarks graph.toList tableau)
    (empty : Clause.waitingOf graph.toList = []) :
    ∃ after, Tableau.finish graph tableau = .ok (Method.report .tableau graph) after ∧
      after.outline.script.proofLines = (Method.finalDraft .tableau graph).closedLines label ∧
      after.outline.script.remarks = remarks := by
  have none_waits : tableau.waiting = [] := follows.waiting.trans empty
  -- No rule can be named, so falsity is left to the proof method.
  have deduced : (Statement.conclusion false).isDeduction = true := rfl
  obtain ⟨opened, ensured, written, shows⟩ := follows.shows.derive deduced
  obtain ⟨after, closed, lines, kept⟩ := shows.close
  refine ⟨{ tableau with outline := after }, ?_, ?_, kept⟩
  · simp [Tableau.finish, onOutline, Attempt.onPart, Attempt.embed, ensured, none_waits,
      Outline.conclude, written, closed, Method.report, empty, finalCore, coreSizes]
  · simpa [Method.finalDraft, Method.closing, closingStatements, empty] using lines

/-- A tableau with waiting clauses writes a rule for each and closes its script by the last one. -/
theorem Tableau.Follows.finish_waiting {tableau : Tableau}
    (follows : Follows label remarks graph.toList tableau)
    (waits : Clause.waitingOf graph.toList ≠ []) :
    ∃ after, Tableau.finish graph tableau = .ok (Method.report .tableau graph) after ∧
      after.outline.script.proofLines = (Method.finalDraft .tableau graph).closedLines label ∧
      after.outline.script.remarks = remarks := by
  obtain ⟨opened, ensured, shows⟩ := follows.shows.ensureRefutation
  obtain ⟨premises, conjecture, body, refuting⟩ := Draft.refute_eq_refuting
    (Draft.begun (Draft.ofClauses (Method.statement .tableau) graph.toList))
  rw [refuting] at shows
  -- Opening a block leaves the theory alone, so the rules need the axioms and definitions of the
  -- trace.
  have theory : opened.theory = Clause.theoryOf graph.toList := by
    rw [shows.theory, ← refuting, Option.elim_some, Draft.theory_refute,
      Draft.theory_ofClauses (Method.statement_isStep .tableau)]
    rfl
  -- The rules follow the statements that the trace has left in the block.
  obtain ⟨drained, drains, ruled, core, rules⟩ :=
    drain_ok graph tableau.waiting { tableau with outline := opened } body shows
  simp only [theory, follows.core, follows.rules, follows.waiting, Nat.zero_add]
    at drains ruled core rules
  have deduced : (Statement.ruleConclusion (drained.core.map (tipOf graph))
      drained.rules).isDeduction = true := rfl
  obtain ⟨written, concluded⟩ := ruled.deduce deduced
  obtain ⟨after, closed, lines, kept⟩ := concluded.close
  refine ⟨{ drained with outline := after }, ?_, ?_, kept⟩
  · have tips : (fun name => (graph.tip? name).getD name) = tipOf graph := rfl
    rw [core, rules] at written closed
    simp [Tableau.finish, onOutline, Attempt.onPart, Attempt.embed, ensured, follows.waiting,
      follows.core, follows.rules, waits, drains, tips, core, rules, written, closed, Method.report]
  · -- The lines are those of the draft with the rules and the conclusion.
    rw [lines, Method.finalDraft, ← Draft.deduce_refute, refuting]
    simp [Method.closing, closingStatements, List.isEmpty_eq_false_iff.mpr waits, Draft.deduce,
      core, rules]

/-- A tableau closes its script. -/
theorem Tableau.Follows.finish {tableau : Tableau}
    (follows : Follows label remarks graph.toList tableau) :
    ∃ after, Tableau.finish graph tableau = .ok (Method.report .tableau graph) after ∧
      after.outline.script.proofLines = (Method.finalDraft .tableau graph).closedLines label ∧
      after.outline.script.remarks = remarks := by
  -- Only a tableau with waiting clauses has a last rule to close with.
  by_cases empty : Clause.waitingOf graph.toList = []
  · exact follows.finish_empty empty
  · exact follows.finish_waiting empty

end Closing

namespace Reconstruction

variable {method : Method} {label : Option String} {remarks : List Statement}
  {clauses : List Clause} {reconstruction : Reconstruction}

/-- What a reconstruction and the clauses that it has taken have in common. -/
def Follows (method : Method) (label : Option String) (remarks : List Statement)
    (clauses : List Clause) : Reconstruction → Prop
  | chaining state => method = .direct ∧ state.Follows label remarks clauses
  | tableau state => method = .tableau ∧ state.Follows label remarks clauses

/-- A reconstruction before its first clause follows none. -/
theorem follows_new (method : Method) (label : Option String) :
    Follows method label [] [] (new method label none) := by
  -- Nothing is written yet, whatever the method.
  cases method with
  | direct => exact ⟨rfl, Outline.shows_blank label, rfl⟩
  | tableau => exact ⟨rfl, Outline.shows_blank label, rfl, rfl, rfl⟩

/-- A reconstruction shows the draft of the clauses that it follows. -/
theorem Follows.shows (follows : Follows method label remarks clauses reconstruction) :
    Outline.Shows label remarks (Draft.ofClauses method.statement clauses)
      reconstruction.outline := by
  -- Either method keeps an outline.
  cases reconstruction with
  | chaining state =>
    obtain ⟨rfl, follows⟩ := follows
    exact follows.shows
  | tableau state =>
    obtain ⟨rfl, follows⟩ := follows
    exact follows.shows

/-- A reconstruction takes a clause of a new name, and stops only if the clause is refused. -/
theorem Follows.step {clause : Clause}
    (follows : Follows method label remarks clauses reconstruction)
    (fresh : clause.name ∉ clauses.map Clause.name) :
    ∃ after, Follows method label remarks (clauses ++ [clause]) after ∧
      Reconstruction.step clause reconstruction = match clause.refusal? clauses with
        | none => .ok () after
        | some fault => .error fault after := by
  -- The step is that of the method, and its state is put back.
  cases reconstruction with
  | chaining state =>
    obtain ⟨rfl, follows⟩ := follows
    obtain ⟨after, follows, stepped⟩ := follows.step fresh
    refine ⟨chaining after, ⟨rfl, follows⟩, ?_⟩
    cases refused : clause.refusal? clauses <;>
      simp [Reconstruction.step, Attempt.embed, stepped, refused]
  | tableau state =>
    obtain ⟨rfl, follows⟩ := follows
    obtain ⟨after, follows, stepped⟩ := follows.step fresh
    refine ⟨tableau after, ⟨rfl, follows⟩, ?_⟩
    cases refused : clause.refusal? clauses <;>
      simp [Reconstruction.step, Attempt.embed, stepped, refused]

/-- A remark is written between the lines of the proof. -/
theorem Follows.remark (follows : Follows method label remarks clauses reconstruction)
    (text : String) :
    ∃ after, Follows method label (remarks ++ [.comment text]) clauses after ∧
      onOutline (Outline.write (.comment text)) reconstruction = .ok () after := by
  -- Both methods keep their remarks in the outline.
  cases reconstruction with
  | chaining state =>
    obtain ⟨rfl, follows⟩ := follows
    refine ⟨chaining { state with outline := state.outline.push (.comment text) },
      ⟨rfl, follows.shows.remark text, follows.steps⟩, ?_⟩
    simp [onOutline, Chaining.onOutline, Attempt.onPart, Attempt.embed,
      Outline.write_ok follows.shows.unlimited]
  | tableau state =>
    obtain ⟨rfl, follows⟩ := follows
    refine ⟨tableau { state with outline := state.outline.push (.comment text) },
      ⟨rfl, follows.shows.remark text, follows.waiting, follows.core, follows.rules⟩, ?_⟩
    simp [onOutline, Tableau.onOutline, Attempt.onPart, Attempt.embed,
      Outline.write_ok follows.shows.unlimited]

/-- A reconstruction closes its script. -/
theorem Follows.finish {graph : Graph}
    (follows : Follows method label remarks graph.toList reconstruction) :
    ∃ after, Reconstruction.finish graph reconstruction = .ok (method.report graph) after ∧
      after.script.proofLines = (method.finalDraft graph).closedLines label ∧
      after.script.remarks = remarks ∧ after.method = method := by
  -- Each method closes its own script.
  cases reconstruction with
  | chaining state =>
    obtain ⟨rfl, follows⟩ := follows
    obtain ⟨after, finished, lines, kept⟩ := follows.finish
    exact ⟨chaining after, by simp [Reconstruction.finish, Attempt.embed, finished], lines, kept,
      rfl⟩
  | tableau state =>
    obtain ⟨rfl, follows⟩ := follows
    obtain ⟨after, finished, lines, kept⟩ := follows.finish
    exact ⟨tableau after, by simp [Reconstruction.finish, Attempt.embed, finished], lines, kept,
      rfl⟩

end Reconstruction

end Retrace
