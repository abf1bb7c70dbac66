import Retrace.Proofs.Script.Wording
import Retrace.Proofs.Session.Verbose
import Retrace.Proofs.Session.Verdict
import Retrace.Proofs.Tableau.ClosedForm
import Retrace.Proofs.Draft.Introductions

/-!
The figures of a session are those of its trace and of the script that it has written: what is counted
while the trace is taken can be counted again in the two texts.
-/

namespace Retrace

namespace Clause

/-- The entry on a line, if the line holds one. -/
def entryOn? (text : String) : Option Entry :=
  match readLine text with
  | .ok entry => entry
  | .error _ => none

/-- Whether a line holds neither a blank text nor a comment. -/
def isShown (text : String) : Bool :=
  ! isSilent (Text.trim text.toList)

/-- Whether a justification names no parent. -/
def Entry.isRoot (entry : Entry) : Bool :=
  match Justification.parents entry.justification with
  | .ok parents => parents.isEmpty
  | .error _ => false

/-- A clause is a root or derived. -/
theorem length_eq_roots_add_derived (clauses : List Clause) :
    clauses.length = clauses.countP isRoot + (derivedOf clauses).length := by
  induction clauses with
  | nil => rfl
  | cons clause clauses ih =>
    cases root : clause.isRoot <;> simp_all [derivedOf, isDerived] <;> omega

/-- A clause is a root exactly if its entry names no parent. -/
theorem isRoot_of_ofEntry {number : Nat} {entry : Entry} {clause : Clause}
    (held : ofEntry number entry = .ok clause) : entry.isRoot = clause.isRoot := by
  unfold ofEntry at held
  unfold Entry.isRoot
  -- Both look at the same parents.
  cases justified : Justification.parents entry.justification with
  | error fault => simp [justified, Bind.bind, Except.bind] at held
  | ok parents =>
    simp only [justified, Bind.bind, Except.bind, Pure.pure, Except.pure, Except.ok.injEq] at held
    rw [← held]
    rfl

/-- A line without a fault is passed over, or else it holds a clause and its entry. -/
theorem onLine?_of_fault? {earlier : List Clause} {number : Nat} {text : String}
    (clean : fault? earlier number text = none) :
    (isShown text = false ∧ entryOn? text = none ∧ onLine? number text = none) ∨
      ∃ entry clause, isShown text = true ∧ entryOn? text = some entry ∧
        onLine? number text = some clause ∧ entry.isRoot = clause.isRoot := by
  unfold fault? at clean
  rcases read : readLine text with fault | ⟨_ | entry⟩ <;> simp only [read, reduceCtorEq] at clean
  · -- A line that was passed over is blank or a comment, and holds no entry.
    have silent := isSilent_iff.mpr ((readLine_derives text).1.mp read)
    exact .inl ⟨by simp [isShown, silent], by simp [entryOn?, read], by simp [onLine?, read]⟩
  · have shown := (readLine_eq_some_iff.mp read).1
    -- An entry without parents to read would be a fault.
    cases justified : ofEntry number entry with
    | error fault => simp [justified] at clean
    | ok clause =>
      exact .inr ⟨entry, clause, by simp [isShown, shown], by simp [entryOn?, read],
        by simp [onLine?, read, justified, Except.toOption], isRoot_of_ofEntry justified⟩

/-- Lines without a fault are counted as their clauses are. -/
theorem onLines_of_firstFault? {texts : List String} :
    ∀ {earlier : List Clause} {number : Nat}, firstFault? earlier number texts = none →
      texts.countP isShown = (onLines number texts).length ∧
        (texts.filterMap entryOn?).length = (onLines number texts).length ∧
        (texts.filterMap entryOn?).countP Entry.isRoot = (onLines number texts).countP isRoot := by
  induction texts with
  | nil => intros; exact ⟨rfl, rfl, rfl⟩
  | cons text texts ih =>
    intro earlier number clean
    rw [firstFault?, Option.or_eq_none_iff] at clean
    obtain ⟨shown, held, roots⟩ := ih clean.2
    -- The first line adds one clause to all counts, or none.
    rcases onLine?_of_fault? clean.1 with
      ⟨hidden, absent, nothing⟩ | ⟨entry, clause, visible, present, one, same⟩
    · simp [onLines, hidden, absent, nothing, shown, held, roots]
    · simp [onLines, visible, present, one, shown, held, roots, same, Nat.add_comm, List.countP_cons]

end Clause

namespace Statement

/-- Rules, abbreviations and inferences are deductions. -/
theorem isDeduction_of_kind {statement : Statement}
    (kind : statement.isRule = true ∨ statement.isAbbreviation = true ∨
      statement.isInference = true) : statement.isDeduction = true := by
  cases statement <;>
    simp_all [isRule, isAbbreviation, isInference, isDeduction, isStep]

end Statement

namespace Session

variable {method : Method} {preferences : Preferences} {texts : List String}
  {clauses : List Clause} {session : Session}

/-- A session that has counted the clauses that it has entered. -/
structure Tallied (session : Session) : Prop where
  roots : session.roots = session.graph.toList.countP Clause.isRoot
  derived : session.derived = (Clause.derivedOf session.graph.toList).length

/-- Before the first line there is nothing to count. -/
theorem tallied_new (method : Method) (preferences : Preferences) (room : Option Nat) :
    Tallied (new method preferences room) :=
  ⟨rfl, rfl⟩

/-- What happens to the reconstruction changes nothing else. -/
theorem onReconstruction_ok {α : Type} {attempt : Attempt Reconstruction α} {value : α}
    {after : Session} (returned : onReconstruction attempt session = .ok value after) :
    ∃ reconstruction, after = { session with reconstruction } := by
  unfold onReconstruction Attempt.onPart Attempt.embed at returned
  cases ran : attempt session.reconstruction with
  | error fault reconstruction => simp [ran] at returned
  | ok found reconstruction =>
    obtain ⟨-, rfl⟩ : _ ∧ _ = after := by simpa [ran] using returned
    exact ⟨reconstruction, rfl⟩

/-- Echoing a line changes no count. -/
theorem Tallied.echo {echoed : Session} {text : String} (tallied : Tallied session)
    (echoes : (if session.preferences.verbose then Session.echo text else pure ()) session =
      .ok () echoed) : Tallied echoed := by
  unfold Session.echo at echoes
  simp only at echoes
  split at echoes
  · split at echoes
    · obtain ⟨-, rfl⟩ := EStateM.Result.ok.inj echoes
      exact tallied
    · -- An echo is a line of the script, and counts are kept elsewhere.
      obtain ⟨_, rfl⟩ := onReconstruction_ok echoes
      exact ⟨tallied.roots, tallied.derived⟩
  · obtain ⟨-, rfl⟩ := EStateM.Result.ok.inj echoes
    exact tallied

/-- Before a clause is entered it is counted, as a root or as derived. -/
theorem counted_fields (clause : Clause) (session : Session) :
    (counted clause session).graph = session.graph ∧
      (counted clause session).roots = session.roots + [clause].countP Clause.isRoot ∧
      (counted clause session).derived = session.derived + (Clause.derivedOf [clause]).length := by
  by_cases root : clause.isRoot = true <;>
    simp [counted, count, Clause.derivedOf, Clause.isDerived, root]

/-- A clause that is entered leaves all counts alone. -/
theorem enter_ok {clause : Clause} {after : Session}
    (entered : enter clause session = .ok () after) :
    session.graph.insert clause = .ok after.graph ∧ after.roots = session.roots ∧
      after.derived = session.derived := by
  cases inserted : session.graph.insert clause with
  | error fault => simp [enter, inserted] at entered
  | ok grown =>
    -- A late conjecture is noted, and then the reconstruction takes its step.
    by_cases late : session.reconstruction.outline.isLateConjecture clause = true <;>
      simp only [enter, inserted, late, note, Attempt.bind_apply, Attempt.get_apply,
        Attempt.ofExcept_ok_apply, Attempt.modify_apply, if_true, if_false, Bool.false_eq_true]
        at entered <;>
      obtain ⟨_, rfl⟩ := onReconstruction_ok entered <;>
      exact ⟨rfl, rfl, rfl⟩

/-- A clause that is taken is counted and entered. -/
theorem Tallied.take {clause : Clause} {after : Session} (tallied : Tallied session)
    (taken : Session.take clause session = .ok () after) : Tallied after := by
  rw [take_eq_enter] at taken
  obtain ⟨same, roots, derived⟩ := counted_fields clause session
  obtain ⟨inserted, kept, left⟩ := enter_ok taken
  rw [same] at inserted
  have grown := Graph.toList_insert inserted
  -- The clause is counted among the roots or the derived ones, as it is entered.
  constructor
  · rw [kept, roots, grown, tallied.roots, List.countP_append]
  · rw [left, derived, grown, tallied.derived, Clause.derivedOf, Clause.derivedOf, Clause.derivedOf,
      List.filter_append, List.length_append]

/-- Lines that are all accepted are tallied. -/
theorem Follows.tallied_feedLines (lines : List String) :
    ∀ {number : Nat} {texts : List String} {clauses : List Clause} {session after : Session},
      Follows method preferences texts clauses session → Tallied session →
      Session.feedLines number lines session = .ok () after → Tallied after := by
  induction lines with
  | nil =>
    intro number texts clauses session after follows tallied fed
    obtain rfl : session = after := by simpa [Session.feedLines] using fed
    exact tallied
  | cons text lines ih =>
    intro number texts clauses session after follows tallied fed
    rw [Session.feedLines, Attempt.bind_apply] at fed
    -- A fault in the first line would have stopped the others.
    cases first : feedLine number text session with
    | error fault stopped => simp [first] at fed
    | ok _ middle =>
      simp only [first] at fed
      refine ih (follows.feedLine_ok first) ?_ fed
      -- The line is echoed, and its clause is taken if it holds one.
      obtain ⟨echoed, -, echoes⟩ := follows.echo text
      have tallied := tallied.echo echoes
      rw [feedLine_eq number text echoes] at first
      split at first
      · cases first
      · obtain ⟨-, rfl⟩ := EStateM.Result.ok.inj first
        exact tallied
      · split at first
        · cases first
        · exact tallied.take first

/-- The figures of a session are counted among the clauses of the trace. -/
theorem summary_of_runText {trace : String} {summary : Summary}
    (accepted : runText trace (new method preferences none) = .ok summary session) :
    let clauses := Clause.onLines 1 (textLines trace)
    ∃ graph : Graph, graph.toList = clauses ∧ Clause.Ordered clauses ∧ summary = {
      method
      clauses := clauses.length
      roots := clauses.countP Clause.isRoot
      derived := (Clause.derivedOf clauses).length
      rules := (method.report graph).rules
      core := (method.report graph).core
      scriptLines := session.script.lines.size } := by
  cases fed : Session.feedLines 1 (textLines trace) (new method preferences none) with
  | error fault after =>
    -- A fault in any line would have been the answer.
    rw [textLines] at fed
    simp [runText, fed] at accepted
  | ok value after =>
    -- The session follows the clauses of the trace, and its counts are those of its graph.
    have begins := follows_new method preferences
    obtain ⟨follows, -⟩ := Follows.feedLines (textLines trace) begins .nil fed
    have tallied := begins.tallied_feedLines _ (tallied_new method preferences none) fed
    obtain ⟨closed, finished, -⟩ := follows.finish
    rw [textLines] at fed
    simp only [runText, Attempt.bind_apply, fed, finished] at accepted
    obtain ⟨rfl, rfl⟩ := EStateM.Result.ok.inj accepted
    refine ⟨after.graph, follows.entered, follows.ordered, ?_⟩
    rw [tallied.roots, tallied.derived, follows.entered]
    rfl

/-- A test of texts that is one of deductions selects, from the text of the script, the lines of what
the derived clauses have become and of what closes the script. -/
theorem filter_textLines_of_runText {trace : String} {summary : Summary}
    (accepted : runText trace (new method preferences none) = .ok summary session)
    (labelled : ∀ label ∈ preferences.label, FitsLine label) (test : String → Bool)
    (kind : Statement → Bool)
    (deduced : ∀ statement : Statement, kind statement = true → statement.isDeduction = true)
    (shows : ∀ line ∈ session.script.lines.toList, line.statement.isVerbatim = false →
      test line.written = kind line.statement) :
    ∃ lines : List Line,
      (Script.textLines session.script.text).filter test = lines.map Line.written ∧
        lines.map Line.statement =
          ((Clause.derivedOf (Clause.onLines 1 (textLines trace))).map method.statement ++
            method.closing session.graph).filter kind := by
  obtain ⟨closed, -⟩ := closed_of_runText accepted
  have fits := fits_of_runText accepted labelled
  refine ⟨session.script.lines.toList.filter (kind ·.statement),
    Script.filter_textLines_eq test kind
      (fun line member => Statement.fitsLine_text (fits line member).2)
      (fun line member => (fits line member).1)
      fun line member => shows line member (fits line member).1, ?_⟩
  -- What is selected are deductions, and those of a closed script are known.
  rw [← closed.filter_deductions kind deduced, Script.statements, List.filter_map]
  rfl

/-- Lines of a kind that every derived clause becomes and that nothing at the end of the script has are
as many as the derived clauses. -/
theorem countP_textLines_of_runText {trace : String} {summary : Summary}
    (accepted : runText trace (new method preferences none) = .ok summary session)
    (labelled : ∀ label ∈ preferences.label, FitsLine label) (test : String → Bool)
    (kind : Statement → Bool)
    (deduced : ∀ statement : Statement, kind statement = true → statement.isDeduction = true)
    (shows : ∀ line ∈ session.script.lines.toList, line.statement.isVerbatim = false →
      test line.written = kind line.statement)
    (every : ∀ clause, kind (method.statement clause) = true)
    (closes : (method.closing session.graph).filter kind = []) :
    (Script.textLines session.script.text).countP test =
      (Clause.derivedOf (Clause.onLines 1 (textLines trace))).length := by
  obtain ⟨lines, written, stated⟩ :=
    filter_textLines_of_runText accepted labelled test kind deduced shows
  rw [List.countP_eq_length_filter, written, List.length_map, ← List.length_map Line.statement,
    stated, List.filter_append, Statement.filter_map_eq_map kind _ _ every, closes, List.append_nil,
    List.length_map]

end Session

namespace Session

variable {preferences : Preferences} {session : Session} {trace : String} {summary : Summary}

/-- Direct chaining states a fact for every derived clause. -/
theorem countP_inferences
    (accepted : runText trace (new .direct preferences none) = .ok summary session)
    (labelled : ∀ label ∈ preferences.label, FitsLine label) :
    (Script.textLines session.script.text).countP isInferenceText =
      (Clause.derivedOf (Clause.onLines 1 (textLines trace))).length := by
  -- No tips of a core are named, so that only an inference starts from facts.
  have other (line : Line) (member : line ∈ session.script.lines.toList) (tips : List String)
      (number : Nat) : line.statement ≠ .ruleConclusion tips number := by
    intro same
    have deduced := (closed_of_runText accepted).1.mem_deductions member (by rw [same]; rfl)
    simp [same, Method.closing, Method.statement] at deduced
  refine countP_textLines_of_runText accepted labelled isInferenceText Statement.isInference
    (fun statement kind => Statement.isDeduction_of_kind (.inr (.inr kind)))
    (fun line member own => Line.isInferenceText_written own (other line member)) (fun _ => rfl) ?_
  simp [Method.closing, Statement.isInference]

/-- A tableau abbreviates every derived clause, and states as many rules, numbered from one. -/
theorem countP_rules
    (accepted : runText trace (new .tableau preferences none) = .ok summary session)
    (labelled : ∀ label ∈ preferences.label, FitsLine label) :
    let derived := (Clause.derivedOf (Clause.onLines 1 (textLines trace))).length
    let lines := Script.textLines session.script.text
    lines.countP (startsWith "let ") = derived ∧
      List.Forall₂ (fun number line =>
          startsWith ("have " ++ Statement.ruleName number ++ ":") line = true)
        (List.range' 1 derived) (lines.filter (startsWith "have r")) := by
  intro derived lines
  obtain ⟨closed, -⟩ := closed_of_runText accepted
  have ordered : Clause.Ordered session.graph.toList := closed.entered ▸ closed.ordered
  -- Neither kind has conclusions, so both are looked for among the rules.
  have rules : (Method.closing .tableau session.graph).filter Statement.isRule =
      (List.range' 1 (Clause.derivedOf session.graph.toList).length).map
        (Tableau.ruleNumbered session.graph.toList) := by
    rw [Tableau.filter_closing ordered fun statement last => ?_,
      Statement.filter_map_eq_map _ _ _ fun _ => rfl]
    cases statement <;> first | rfl | cases last
  have abbreviations : (Method.closing .tableau session.graph).filter Statement.isAbbreviation =
      [] := by
    rw [Tableau.filter_closing ordered fun statement last => ?_,
      Statement.filter_map_eq_nil _ _ _ fun _ => rfl]
    cases statement <;> first | rfl | cases last
  constructor
  · exact countP_textLines_of_runText accepted labelled (startsWith "let ") Statement.isAbbreviation
      (fun statement kind => Statement.isDeduction_of_kind (.inr (.inl kind)))
      (fun line member own =>
        (Line.startsWith_written own _).trans (Statement.isPrefixOf_text own).2.1)
      (fun _ => rfl) abbreviations
  · obtain ⟨found, written, stated⟩ := filter_textLines_of_runText accepted labelled
      (startsWith "have r") Statement.isRule
      (fun statement kind => Statement.isDeduction_of_kind (.inl kind))
      fun line member own => (Line.startsWith_written own _).trans (Statement.isPrefixOf_text own).1
    rw [List.filter_append, Statement.filter_map_eq_nil Statement.isRule _ _ fun _ => rfl,
      List.nil_append, rules] at stated
    -- The lines of the rules and their numbers go side by side.
    rw [written, List.forall₂_map_right_iff]
    have paired : List.Forall₂ Eq (found.map Line.statement) (found.map Line.statement) := by
      rw [List.forall₂_eq_eq_eq]
    nth_rewrite 1 [stated] at paired
    rw [List.forall₂_map_left_iff, List.forall₂_map_right_iff, closed.entered] at paired
    refine paired.imp fun number line same => ?_
    rw [Line.startsWith_written (by rw [← same]; rfl), ← same]
    exact Statement.isPrefixOf_ruleName number _ _

end Session

/-- The figures of an accepted trace are those of its lines and of the script. The clauses are the lines
of the trace that are neither blank nor comments, some of them roots, whose justifications name no
parent, and all others derived, and the script has as many line feeds as it has lines. Direct chaining
has no rules and no core, and states a fact for each derived clause. A tableau abbreviates each derived
clause and states as many rules, which are numbered from one. -/
theorem translateTrace_figures {method : Method} {preferences : Preferences} {trace script : String}
    {summary : Summary} (labelled : ∀ label ∈ preferences.label, FitsLine label)
    (accepted : translateTrace method preferences trace = .ok (script, summary)) :
    let texts := Session.textLines trace
    let lines := Script.textLines script
    summary.method = method ∧
      summary.clauses = summary.roots + summary.derived ∧
      summary.clauses = texts.countP Clause.isShown ∧
      summary.clauses = (texts.filterMap Clause.entryOn?).length ∧
      summary.roots = (texts.filterMap Clause.entryOn?).countP Clause.Entry.isRoot ∧
      summary.scriptLines = script.toList.count '\n' ∧
      match method with
      | .direct =>
        summary.rules = 0 ∧ summary.core = [] ∧ lines.countP isInferenceText = summary.derived
      | .tableau =>
        summary.rules = summary.derived ∧
          lines.countP (startsWith "let ") = summary.derived ∧
          lines.countP (startsWith "have r") = summary.derived ∧
          List.Forall₂ (fun number line =>
              startsWith ("have " ++ Statement.ruleName number ++ ":") line = true)
            (List.range' 1 summary.derived) (lines.filter (startsWith "have r")) := by
  intro texts lines
  unfold translateTrace at accepted
  split at accepted
  case h_2 => cases accepted
  case h_1 figures session ran =>
  obtain ⟨rfl, rfl⟩ := Prod.mk.inj (Except.ok.inj accepted)
  -- The figures are those of the session that was left.
  obtain ⟨graph, entered, ordered, rfl⟩ := Session.summary_of_runText ran
  -- No line of an accepted trace has a fault, so each holds a clause or nothing.
  have clean : Clause.firstFault? [] 1 texts = none := by
    rw [← Session.fault?_runText method preferences trace, Attempt.fault?, ran]
  obtain ⟨shown, entries, roots⟩ := Clause.onLines_of_firstFault? clean
  have fits := Session.fits_of_runText ran labelled
  refine ⟨rfl, Clause.length_eq_roots_add_derived _, shown.symm, entries.symm, roots.symm, ?_, ?_⟩
  · exact (Script.count_text fun line member => Statement.fitsLine_text (fits line member).2).symm
  · cases method with
    | direct => exact ⟨rfl, rfl, Session.countP_inferences ran labelled⟩
    | tableau =>
      -- The lines of the rules are paired with their numbers, and so they are as many.
      obtain ⟨abbreviations, rules⟩ := Session.countP_rules ran labelled
      refine ⟨?_, abbreviations, ?_, rules⟩
      · rw [Tableau.report_eq (entered ▸ ordered), Tableau.drained, entered]
      · rw [List.countP_eq_length_filter, ← rules.length_eq, List.length_range']

/-- A tableau for the sample has one root, and a rule for each of the two other clauses. -/
theorem translateTrace_figures_sample :
    ∃ script summary,
      translateTrace .tableau { verbose := true, label := some "l" } Session.sample =
          .ok (script, summary) ∧
        summary.clauses = 3 ∧ summary.roots = 1 ∧ summary.rules = 2 ∧
        summary.scriptLines = script.toList.count '\n' ∧
        (Script.textLines script).countP (startsWith "let ") = 2 ∧
        (Script.textLines script).countP (startsWith "have r") = 2 := by
  have accepted :
      (translateTrace .tableau { verbose := true, label := some "l" } Session.sample).isOk = true := by
    decide +kernel
  -- The run is evaluated once, to see that the trace is accepted.
  cases translated : translateTrace .tableau { verbose := true, label := some "l" } Session.sample with
  | error fault => simp [translated, Except.isOk, Except.toBool] at accepted
  | ok answer =>
    obtain ⟨script, summary⟩ := answer
    obtain ⟨-, parted, shown, -, roots, feeds, rules, abbreviations, stated, -⟩ :=
      translateTrace_figures (by decide) translated
    -- The lines of the trace are counted, and all other figures follow.
    have three : (Session.textLines Session.sample).countP Clause.isShown = 3 := by decide +kernel
    have one : ((Session.textLines Session.sample).filterMap Clause.entryOn?).countP
        Clause.Entry.isRoot = 1 := by
      decide +kernel
    exact ⟨script, summary, rfl, by omega, by omega, by omega, feeds, by omega, by omega⟩

end Retrace
