import Retrace.Proofs.Draft.Fits
import Retrace.Proofs.Script
import Retrace.Proofs.Session.Run

/-!
The block structure of scripts, whichever lines a session was fed and whichever of them it refused.
The lemma is stated once, by a conjecture or by falsity; its proof takes one block or two, and only
the last line of the innermost block concludes.
-/

namespace Retrace

/-- The deductions that close a script are steps, and one conclusion behind them. -/
theorem Method.closing_eq (method : Method) (graph : Graph) :
    ∃ rules conclusion, method.closing graph = rules ++ [conclusion] ∧
      (∀ statement ∈ rules, statement.isStep = true) ∧ conclusion.isConclusion = true := by
  -- Direct chaining only concludes.
  cases method with
  | direct => exact ⟨[], _, rfl, by simp, rfl⟩
  | tableau =>
    let waiting := Clause.waitingOf graph.toList
    by_cases empty : waiting.isEmpty = true
    · refine ⟨[], .conclusion false, ?_, by simp, rfl⟩
      rw [closing, Tableau.closingStatements, if_pos empty, List.nil_append]
    · -- There is a rule for every clause that waits.
      refine ⟨Tableau.ruleStatements graph (Clause.theoryOf graph.toList) 0 [] waiting,
        .ruleConclusion ((Tableau.finalCore graph [] waiting).map (Tableau.tipOf graph))
          waiting.length, ?_, fun _ => Tableau.isStep_of_mem_ruleStatements, rfl⟩
      rw [closing, Tableau.closingStatements, if_neg empty]

/-- A script whose deductions are complete states its lemma, and its last deduction is the only
conclusion. -/
theorem Method.finalDraft_eq (method : Method) (graph : Graph) :
    ∃ premises body closing,
      method.finalDraft graph = .refuting premises
          (Draft.begun (Draft.ofClauses method.statement graph.toList)).conclusion?
          (body ++ [closing]) ∧
        (∀ statement ∈ body, statement.isStep = true ∨ statement.isAssumption = true) ∧
        closing.isConclusion = true := by
  obtain ⟨rules, closing, closes, steps, concludes⟩ := method.closing_eq graph
  -- What the clauses of the trace have left in the block does not conclude.
  have before : ∀ statement ∈ (Draft.begun (Draft.ofClauses method.statement graph.toList)).body,
      statement.isStep = true ∨ statement.isAssumption = true := by
    intro statement member
    rcases Draft.mem_body_ofClauses member with assumed | ⟨clause, -, -, rfl⟩
    · exact .inr assumed
    · exact .inl (method.statement_isStep clause)
  unfold finalDraft
  rw [closes]
  -- If premises are still gathered, the deductions are the first of the block.
  cases draft : Draft.begun (Draft.ofClauses method.statement graph.toList) with
  | gathering premises =>
    exact ⟨premises, rules, closing, rfl, fun statement member => .inl (steps statement member),
      concludes⟩
  | refuting premises conjecture body =>
    rw [draft] at before
    refine ⟨premises, body ++ rules, closing, by simp [Draft.deduce, Draft.conclusion?], ?_,
      concludes⟩
    intro statement member
    rcases List.mem_append.mp member with old | rule
    · exact before statement old
    · exact .inl (steps statement rule)

namespace Session

/-- Some line is accepted as the conjecture while the session has taken no derived clause. -/
def StatesConjectureFirst (method : Method) (preferences : Preferences)
    (lines : List (Nat × String)) : Prop :=
  ∃ before line after clause, lines = before ++ line :: after ∧
    feedLine line.1 line.2 (pastAll before (new method preferences none)) =
      .ok () (pastAll (before ++ [line]) (new method preferences none)) ∧
    (pastAll (before ++ [line]) (new method preferences none)).graph.toList =
      (pastAll before (new method preferences none)).graph.toList ++ [clause] ∧
    clause.isConjecture = true ∧
    ∀ earlier ∈ (pastAll before (new method preferences none)).graph.toList,
      earlier.isRoot = true

variable {method : Method} {preferences : Preferences}

/-- A further line states the conjecture first, unless a line before it does. -/
theorem statesConjectureFirst_snoc (lines : List (Nat × String)) (line : Nat × String) :
    StatesConjectureFirst method preferences (lines ++ [line]) ↔
      StatesConjectureFirst method preferences lines ∨ ∃ clause,
        feedLine line.1 line.2 (pastAll lines (new method preferences none)) =
          .ok () (pastAll (lines ++ [line]) (new method preferences none)) ∧
        (pastAll (lines ++ [line]) (new method preferences none)).graph.toList =
          (pastAll lines (new method preferences none)).graph.toList ++ [clause] ∧
        clause.isConjecture = true ∧
        ∀ earlier ∈ (pastAll lines (new method preferences none)).graph.toList,
          earlier.isRoot = true := by
  constructor
  · rintro ⟨before, found, after, clause, split, stated⟩
    -- Either the line that states the conjecture is the last one, or it stands before it.
    rcases snoc_eq_append_cons split with ⟨-, rfl, rfl⟩ | ⟨front, -, rfl⟩
    · exact .inr ⟨clause, stated⟩
    · exact .inl ⟨before, found, front, clause, rfl, stated⟩
  · -- A line that states the conjecture does so whatever follows.
    rintro (⟨before, found, after, clause, rfl, stated⟩ | ⟨clause, stated⟩)
    · exact ⟨before, found, after ++ [line], clause, by simp, stated⟩
    · exact ⟨lines, line, [], clause, rfl, stated⟩

/-- The lemma has the conjecture as its conclusion exactly if some line states it first. -/
theorem conclusion?_pastAll (method : Method) (preferences : Preferences)
    (lines : List (Nat × String)) :
    (Draft.begun (Draft.ofClauses method.statement
      (pastAll lines (new method preferences none)).graph.toList)).conclusion?.isSome = true ↔
      StatesConjectureFirst method preferences lines := by
  induction lines using List.reverseRecOn with
  | nil =>
    constructor
    · intro stated
      cases stated
    · rintro ⟨before, line, after, -, split, -⟩
      simp at split
  | append_singleton lines line ih =>
    obtain ⟨clauses, follows, -⟩ := follows_pastAll method preferences lines
    rw [statesConjectureFirst_snoc, ← ih]
    -- The last line is met by a session that follows the clauses before it.
    have past := follows.past line.1 line.2
    rw [← pastAll_snoc, follows.entered] at *
    rcases past with ⟨after, -⟩ | ⟨clause, -, after, done⟩
    · -- Nothing was entered, so the draft is the same as before.
      rw [after.entered]
      refine ⟨.inl, fun either => either.resolve_right ?_⟩
      rintro ⟨clause, -, grown, -⟩
      simp at grown
    · rw [after.entered, Draft.ofClauses_snoc, Draft.begun_some, Draft.conclusion?_receive,
        Bool.or_eq_true, Bool.and_eq_true]
      refine or_congr_right' fun unstated => ?_
      constructor
      · rintro ⟨gathering, conjecture⟩
        rw [Draft.isGathering_ofClauses, List.all_eq_true] at gathering
        simp only [Bool.and_eq_true, Bool.not_eq_true'] at gathering
        -- No conjecture stands before this one, so it is not refused.
        have first : clauses.find? Clause.isConjecture = none := by
          rw [List.find?_eq_none]
          intro earlier member
          simp [(gathering earlier member).2]
        have accepted : clause.refusal? clauses = none := by
          obtain ⟨root, role⟩ : clause.isRoot = true ∧ clause.role = .conjecture := by
            simpa [Clause.isConjecture] using conjecture
          simp [Clause.refusal?, root, role, first]
        rw [accepted] at done
        exact ⟨clause, done, rfl, conjecture, fun earlier member => (gathering earlier member).1⟩
      · rintro ⟨other, -, same, conjecture, roots⟩
        obtain rfl : clause = other := by simpa using same
        have either := Draft.isGathering_or_conclusion? method.statement roots
        rw [Bool.or_eq_true] at either
        exact ⟨either.resolve_right unstated, conjecture⟩

/-- The remarks of a session fit on a line if the lines that it was fed do. -/
theorem fits_remarksOf {texts : List String} (fit : ∀ text ∈ texts, FitsLine text) :
    ∀ statement ∈ remarksOf preferences texts, statement.Fits := by
  intro statement member
  -- Only a verbose session leaves remarks, one for each line that is not blank.
  unfold remarksOf at member
  split at member
  · obtain ⟨text, among, left⟩ := List.mem_filterMap.mp member
    unfold remark? at left
    simp only at left
    split at left
    · cases left
    · -- A remark is a trimmed line.
      obtain rfl := Option.some.inj left
      refine ⟨rfl, fun shown held feed => fit text among (Text.mem_of_mem_trim ?_)⟩
      rw [List.mem_singleton.mp held] at feed
      simpa using feed
  · cases member

/-- Every line of a closed script is written from texts that fit, if the label and the lines that the
session was fed fit. -/
theorem Closed.fits {texts : List String} {clauses : List Clause} {session : Session}
    (closed : Closed method preferences texts clauses session)
    (labelled : ∀ label ∈ preferences.label, FitsLine label)
    (fit : ∀ text ∈ texts, FitsLine text) (clean : ∀ clause ∈ clauses, clause.FitsLine)
    {line : Line} (member : line ∈ session.script.lines.toList) : line.statement.Fits := by
  -- A line is a remark or is read by the proof.
  cases remark : line.statement.isRemark with
  | true =>
    have among : line.statement ∈ session.script.remarks :=
      List.mem_filter.mpr ⟨List.mem_map_of_mem member, remark⟩
    rw [closed.remarks] at among
    exact fits_remarksOf fit _ among
  | false =>
    have among : line ∈ session.script.proofLines :=
      List.mem_filter.mpr ⟨member, by simp [remark]⟩
    rw [closed.proofLines] at among
    exact method.fits_closedLines (closed.entered ▸ clean) labelled among

/-- No line of a closed script is verbatim, whatever its texts are. -/
theorem Closed.isVerbatim_eq_false {texts : List String} {clauses : List Clause} {session : Session}
    (closed : Closed method preferences texts clauses session) {line : Line}
    (member : line ∈ session.script.lines.toList) : line.statement.isVerbatim = false := by
  cases remark : line.statement.isRemark with
  | true => cases stated : line.statement <;> simp_all [Statement.isRemark, Statement.isVerbatim]
  | false =>
    -- A line that is no remark belongs to the proof.
    obtain ⟨premises, body, closing, final, kinds, concludes⟩ := method.finalDraft_eq session.graph
    have among : line.statement ∈ session.script.proofLines.map Line.statement :=
      List.mem_map_of_mem (List.mem_filter.mpr ⟨member, by simp [remark]⟩)
    -- The proof consists of its frame, of steps and assumptions, a conclusion and the block ends.
    rw [closed.proofLines, final, Draft.statements_closedLines] at among
    rcases List.mem_append.mp among with framed | inside
    · exact (Draft.mem_frame framed).2.2
    rcases List.mem_append.mp inside with stated | ends
    · rcases List.mem_append.mp stated with kept | last
      · have kind := kinds _ kept
        cases shape : line.statement <;>
          simp_all [Statement.isStep, Statement.isAssumption, Statement.isVerbatim]
      · rw [List.mem_singleton.mp last]
        cases closing <;> first | rfl | cases concludes
    · rw [List.eq_of_mem_replicate ends]
      rfl

/-- A line of a draft whose body holds steps and assumptions does not conclude. -/
theorem not_isConclusionText_of_mem {label : Option String} {premises : List Clause}
    {conjecture : Option Clause} {body : List Statement}
    (kinds : ∀ statement ∈ body, statement.isStep = true ∨ statement.isAssumption = true)
    {line : Line} (member : line ∈ (Draft.refuting premises conjecture body).closedLines label) :
    ¬ Statement.IsConclusionText (unindented line.written) := by
  have among := List.mem_map_of_mem (f := Line.statement) member
  rw [Draft.statements_closedLines, List.mem_append, List.mem_append] at among
  -- The frame, the body and the ends of the blocks all hold statements of other kinds.
  obtain ⟨read, own, other⟩ : line.statement.isRemark = false ∧
      line.statement.isVerbatim = false ∧ line.statement.isConclusion = false := by
    rcases among with framed | stated | ends
    · obtain ⟨other, read, own⟩ := Draft.mem_frame framed
      exact ⟨read, own, (Statement.isDeduction_eq_false_iff.mp other).2⟩
    · have kind := kinds _ stated
      cases shape : line.statement <;>
        simp_all [Statement.isStep, Statement.isAssumption, Statement.isRemark,
          Statement.isVerbatim, Statement.isConclusion]
    · rw [List.eq_of_mem_replicate ends]
      exact ⟨rfl, rfl, rfl⟩
  -- A line of another kind is not worded as a conclusion.
  rw [Line.unindented_written read own]
  exact Statement.not_isConclusionText read own other

/-- Whatever lines a session was fed, and whichever of them it refused, closing it succeeds and
leaves a script of this structure, comments apart. The header of the lemma stands at the margin, its
premises and its conclusion stand in column two, and a proof begins at the margin. If some line has
stated the conjecture before any derived clause was taken, the conjecture is denied and falsity is
left to a second proof, which begins in column two; otherwise falsity is the conclusion itself. The
innermost block holds steps and assumptions, and last of all the only line that shows falsity by a
method. In the end the open blocks are closed, the outermost at the margin. -/
theorem finish_blocks (method : Method) (preferences : Preferences)
    (lines : List (Nat × String)) (labelled : ∀ label ∈ preferences.label, FitsLine label)
    (fit : ∀ line ∈ lines, FitsLine line.2) :
    ∃ (summary : Summary) (closed : Session) (premises : List Clause) (conjecture : Option Clause)
      (body : List Statement) (closing : Statement),
      finish (pastAll lines (new method preferences none)) = .ok summary closed ∧
      (Script.textLines closed.script.text).filter (! isRemarkText ·) =
        (Draft.preamble preferences.label premises ++ Draft.opening conjecture ++
          body.map (Line.mk (2 * Draft.blocks conjecture)) ++
          [Line.mk (2 * Draft.blocks conjecture) closing] ++
          Draft.blockEnds (Draft.blocks conjecture)).map Line.written ∧
      (conjecture.isSome = true ↔ StatesConjectureFirst method preferences lines) ∧
      (∀ statement ∈ body, statement.isStep = true ∨ statement.isAssumption = true) ∧
      Statement.IsConclusionText
        (unindented (Line.mk (2 * Draft.blocks conjecture) closing).written) ∧
      ∀ line ∈ Draft.preamble preferences.label premises ++ Draft.opening conjecture ++
          body.map (Line.mk (2 * Draft.blocks conjecture)) ++
          Draft.blockEnds (Draft.blocks conjecture),
        ¬ Statement.IsConclusionText (unindented line.written) := by
  obtain ⟨clauses, follows, held⟩ := follows_pastAll method preferences lines
  obtain ⟨closed, finished, closes⟩ := follows.finish
  -- The clauses stand on lines of the trace, which fit.
  have clean : ∀ clause ∈ clauses, clause.FitsLine := by
    intro clause member
    obtain ⟨line, among, found⟩ := held clause member
    exact Clause.fitsLine_of_onLine? found (fit line among)
  -- Every line holds texts of those clauses, of the label or of a line that was echoed.
  have fits : ∀ line ∈ closed.script.lines.toList, line.statement.Fits := by
    intro line member
    refine closes.fits labelled (fun text among => ?_) clean member
    obtain ⟨fed, inside, rfl⟩ := List.mem_map.mp among
    exact fit fed inside
  -- So the text falls into the lines that were written.
  have shown := Script.filter_textLines
    (fun line member => Statement.fitsLine_text (fits line member).2)
    fun line member => (fits line member).1
  obtain ⟨premises, body, closing, final, kinds, concludes⟩ := method.finalDraft_eq closed.graph
  have stated := conclusion?_pastAll method preferences lines
  rw [follows.entered] at stated
  rw [closes.proofLines, final, closes.entered] at shown
  refine ⟨_, closed, premises, _, body, closing, finished, ?_, stated, kinds, ?_, ?_⟩
  · rw [shown]
    simp [Draft.closedLines, Draft.lines, Draft.openBlocks]
  · rw [Line.unindented_written]
    · exact Statement.isConclusionText_of_isConclusion concludes
    all_goals cases closing <;> first | rfl | cases concludes
  · intro line member
    exact not_isConclusionText_of_mem kinds member

/-- A session that refuses a line between an axiom and a conjecture is closed as any other. -/
theorem finish_blocks_pastRefused :
    ∃ (summary : Summary) (closed : Session) (premises : List Clause) (conjecture : Option Clause)
      (body : List Statement) (closing : Statement),
      finish (pastAll [(1, "cnf(a,axiom,p,file(f))."), (2, "cnf(a)."),
        (3, "cnf(g,conjecture,q,file(f)).")] (new .tableau { label := some "goal" } none)) =
          .ok summary closed ∧
      (Script.textLines closed.script.text).filter (! isRemarkText ·) =
        (Draft.preamble (some "goal") premises ++ Draft.opening conjecture ++
          body.map (Line.mk (2 * Draft.blocks conjecture)) ++
          [Line.mk (2 * Draft.blocks conjecture) closing] ++
          Draft.blockEnds (Draft.blocks conjecture)).map Line.written := by
  -- Neither the label nor a line holds a line feed.
  have labelled : ∀ label ∈ (some "goal" : Option String), FitsLine label := by
    intro label named
    rw [← Option.some.inj named]
    decide
  obtain ⟨summary, closed, premises, conjecture, body, closing, finished, lines, -⟩ :=
    finish_blocks .tableau { label := some "goal" } [(1, "cnf(a,axiom,p,file(f))."), (2, "cnf(a)."),
      (3, "cnf(g,conjecture,q,file(f)).")] labelled (by decide)
  exact ⟨summary, closed, premises, conjecture, body, closing, finished, lines⟩

end Session

end Retrace
