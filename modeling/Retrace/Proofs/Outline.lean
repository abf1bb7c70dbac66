import Retrace.Outline
import Retrace.Proofs.Attempt
import Retrace.Proofs.Draft

/-!
Outlines follow drafts. While its script has unlimited room, every action on an outline is an action
on the draft that it shows, and only closing leaves the drafts behind.
-/

namespace Retrace

namespace Script

/-- The lines that the proof reads. -/
def proofLines (script : Script) : List Line :=
  script.lines.toList.filter (! ·.statement.isRemark)

/-- The remarks between them. -/
def remarks (script : Script) : List Statement :=
  (script.lines.toList.map Line.statement).filter Statement.isRemark

/-- What is read off no remark is read off the lines of the proof. -/
theorem filterMap_proofLines {α : Type} (read : Statement → Option α)
    (skips : ∀ text, read (.comment text) = none) (script : Script) :
    script.proofLines.filterMap (read ∘ Line.statement) =
      script.lines.toList.filterMap (read ∘ Line.statement) := by
  rw [proofLines, List.filterMap_filter]
  congr 1
  funext line
  -- The lines that are left out are the remarks.
  cases kind : line.statement <;> simp [kind, skips, Statement.isRemark]

end Script

namespace Outline

/-- The outline with one more line. -/
def push (statement : Statement) (outline : Outline) : Outline :=
  { outline with script := { outline.script with
      lines := outline.script.lines.push ⟨outline.script.column, statement⟩ } }

/-- The outline with its next lines one block to the left. -/
def outdented (outline : Outline) : Outline :=
  { outline with script := outline.script.dedent blockIndent }

/-- The outline with its next lines one block to the right. -/
def indented (outline : Outline) : Outline :=
  { outline with script := outline.script.indent blockIndent }

/-- The outline with one more block, which the statement opens. -/
def enter (statement : Statement) (outline : Outline) : Outline :=
  { (outline.push statement).indented with openBlocks := outline.openBlocks + 1 }

/-- The outline with its header, unless it has been begun. -/
def begun (outline : Outline) : Outline :=
  if outline.started then outline
  else ({ outline with started := true }.push (.header outline.label)).indented

/-- The outline with falsity for the conclusion of the lemma, and a block to prove it. -/
def refuted (outline : Outline) : Outline :=
  (outline.push .absurdGoal).outdented.enter .plainBlock

/-- The outline with a clause for the conclusion of the lemma, which is denied in one block, and
another block to prove falsity. -/
def concluding (clause : Clause) (outline : Outline) : Outline :=
  ((((outline.push (.goal clause.formula)).outdented.enter .contradictionBlock).push
    (.denial clause.name clause.formula)).push .absurdStep).enter .plainBlock

/-- The outline with the end of its innermost block, which leaves so many others open. -/
def leave (count : Nat) (outline : Outline) : Outline :=
  { outline.outdented.push .blockEnd with openBlocks := count }

variable {statement : Statement} {outline : Outline}

/-- A further line changes nothing but the script. -/
@[simp] theorem push_fields :
    (outline.push statement).label = outline.label ∧
      (outline.push statement).started = outline.started ∧
      (outline.push statement).conjecture = outline.conjecture ∧
      (outline.push statement).openBlocks = outline.openBlocks ∧
      (outline.push statement).theory = outline.theory ∧
      (outline.push statement).script.column = outline.script.column ∧
      (outline.push statement).script.room = outline.script.room :=
  ⟨rfl, rfl, rfl, rfl, rfl, rfl, rfl⟩

/-- A statement other than a remark becomes the last line of the proof. -/
@[simp] theorem push_proofLines :
    (outline.push statement).script.proofLines = outline.script.proofLines ++
      if statement.isRemark then [] else [⟨outline.script.column, statement⟩] := by
  -- Of all statements only comments are remarks.
  cases statement <;> simp [push, Script.proofLines, Statement.isRemark]

/-- A remark becomes the last of the remarks. -/
@[simp] theorem push_remarks :
    (outline.push statement).script.remarks = outline.script.remarks ++
      if statement.isRemark then [statement] else [] := by
  cases statement <;> simp [push, Script.remarks, Statement.isRemark]

/-- Moving to the left changes nothing but the column. -/
@[simp] theorem outdented_fields :
    outline.outdented.label = outline.label ∧
      outline.outdented.started = outline.started ∧
      outline.outdented.conjecture = outline.conjecture ∧
      outline.outdented.openBlocks = outline.openBlocks ∧
      outline.outdented.theory = outline.theory ∧
      outline.outdented.script.column = outline.script.column - 2 ∧
      outline.outdented.script.room = outline.script.room ∧
      outline.outdented.script.proofLines = outline.script.proofLines ∧
      outline.outdented.script.remarks = outline.script.remarks :=
  ⟨rfl, rfl, rfl, rfl, rfl, rfl, rfl, rfl, rfl⟩

/-- Moving to the right changes nothing but the column. -/
@[simp] theorem indented_fields :
    outline.indented.label = outline.label ∧
      outline.indented.started = outline.started ∧
      outline.indented.conjecture = outline.conjecture ∧
      outline.indented.openBlocks = outline.openBlocks ∧
      outline.indented.theory = outline.theory ∧
      outline.indented.script.column = outline.script.column + 2 ∧
      outline.indented.script.room = outline.script.room ∧
      outline.indented.script.proofLines = outline.script.proofLines ∧
      outline.indented.script.remarks = outline.script.remarks :=
  ⟨rfl, rfl, rfl, rfl, rfl, rfl, rfl, rfl, rfl⟩

/-- A further block adds its line, moves to the right and is counted. -/
@[simp] theorem enter_fields :
    (outline.enter statement).label = outline.label ∧
      (outline.enter statement).started = outline.started ∧
      (outline.enter statement).conjecture = outline.conjecture ∧
      (outline.enter statement).openBlocks = outline.openBlocks + 1 ∧
      (outline.enter statement).theory = outline.theory ∧
      (outline.enter statement).script.column = outline.script.column + 2 ∧
      (outline.enter statement).script.room = outline.script.room ∧
      (outline.enter statement).script.proofLines = (outline.push statement).script.proofLines ∧
      (outline.enter statement).script.remarks = (outline.push statement).script.remarks :=
  ⟨rfl, rfl, rfl, rfl, rfl, rfl, rfl, rfl, rfl⟩

/-- The end of a block moves to the left, adds its line and leaves the other blocks. -/
@[simp] theorem leave_fields {count : Nat} :
    (outline.leave count).started = outline.started ∧
      (outline.leave count).conjecture = outline.conjecture ∧
      (outline.leave count).openBlocks = count ∧
      (outline.leave count).theory = outline.theory ∧
      (outline.leave count).script.column = outline.script.column - 2 ∧
      (outline.leave count).script.room = outline.script.room ∧
      (outline.leave count).script.lines =
        outline.script.lines.push ⟨outline.script.column - 2, .blockEnd⟩ ∧
      (outline.leave count).script.proofLines =
        (outline.outdented.push .blockEnd).script.proofLines ∧
      (outline.leave count).script.remarks = (outline.outdented.push .blockEnd).script.remarks :=
  ⟨rfl, rfl, rfl, rfl, rfl, rfl, rfl, rfl, rfl⟩

/-- The header opens no block and changes none of the names that are kept. -/
@[simp] theorem begun_fields :
    outline.begun.openBlocks = outline.openBlocks ∧
      outline.begun.conjecture = outline.conjecture ∧
      outline.begun.theory = outline.theory ∧
      outline.begun.script.room = outline.script.room := by
  unfold begun
  split <;> simp

/-- Neither way of stating the lemma changes the names that are kept. -/
@[simp] theorem refuted_fields :
    outline.refuted.conjecture = outline.conjecture ∧ outline.refuted.theory = outline.theory :=
  ⟨rfl, rfl⟩

@[simp] theorem concluding_fields {clause : Clause} :
    (outline.concluding clause).conjecture = outline.conjecture ∧
      (outline.concluding clause).theory = outline.theory :=
  ⟨rfl, rfl⟩

/-- With unlimited room, writing a statement adds its line. -/
theorem write_ok (unlimited : outline.script.room = none) (statement : Statement) :
    write statement outline = .ok () (outline.push statement) := by
  -- The script takes the line at its current column.
  exact Attempt.onPart_ok (Script.write_of_unlimited unlimited statement)

/-- Moving to the left always succeeds. -/
theorem dedent_ok : dedent outline = .ok () outline.outdented :=
  rfl

/-- Moving to the right always succeeds. -/
theorem indent_ok : indent outline = .ok () outline.indented :=
  rfl

/-- With unlimited room, opening a block adds its line and enters it. -/
theorem openBlock_ok (unlimited : outline.script.room = none) (statement : Statement) :
    openBlock statement outline = .ok () (outline.enter statement) := by
  -- The line comes first, then the move to the right.
  simp [openBlock, write_ok unlimited, indent_ok, enter]

/-- With unlimited room, starting writes the header unless it has been begun. -/
theorem start_ok (unlimited : outline.script.room = none) :
    start outline = .ok () outline.begun := by
  unfold begun
  -- That the header is begun is noted before it is written.
  cases begun : outline.started <;> simp [start, begun, write_ok, indent_ok, unlimited]

/-- With unlimited room, making sure that a block is open opens one if there is none. -/
theorem ensureRefutation_ok (unlimited : outline.script.room = none) :
    ensureRefutation outline =
      .ok () (if outline.openBlocks = 0 then outline.begun.refuted else outline.begun) := by
  -- Starting opens no block.
  by_cases closed : outline.openBlocks = 0 <;>
    simp [ensureRefutation, start_ok, closed, refuted, write_ok, dedent_ok, openBlock_ok, unlimited]

/-- A name comes behind the theory unless it belongs to it. -/
theorem addTheory_fields (name : String) :
    (outline.addTheory name).conjecture = outline.conjecture ∧
      (outline.addTheory name).theory = outline.theory ++ [name].removeAll outline.theory := by
  unfold addTheory
  split
  · rename_i known
    simp [List.removeAll, List.contains_iff_mem.mp known]
  · rename_i fresh
    simp [List.removeAll, mt List.contains_iff_mem.mpr fresh]

/-- A name that is new to the theory comes behind it. -/
theorem addTheory_of_fresh {name : String} (fresh : name ∉ outline.theory) :
    outline.addTheory name = { outline with theory := outline.theory ++ [name] } := by
  simp [addTheory, fresh]

/-- With unlimited room, an axiom or a definition is assumed in one line and then counted. -/
theorem root_ok_of_assumed {clause : Clause} (unlimited : outline.script.room = none)
    (given : clause.role = .standing ∨ clause.role = .definition) :
    root clause outline = .ok () (addTheory clause.name (outline.push
      (if outline.openBlocks = 0 then .premise clause.name clause.formula
        else .supposition clause.name clause.formula))) := by
  by_cases closed : outline.openBlocks = 0 <;>
    rcases given with role | role <;> simp [root, role, closed, write_ok unlimited]

/-- With unlimited room, the first conjecture becomes the conclusion of the lemma, or it is denied
in the innermost block. -/
theorem root_ok_of_first {clause : Clause} (unlimited : outline.script.room = none)
    (role : clause.role = .conjecture) (first : outline.conjecture = none) :
    root clause outline = .ok ()
      (let named := { outline with conjecture := some clause.name }
       if outline.openBlocks = 0 then named.concluding clause
       else named.push (.denial clause.name clause.formula)) := by
  by_cases closed : outline.openBlocks = 0 <;>
    simp [root, role, first, closed, concluding, write_ok, dedent_ok, openBlock_ok, unlimited]

/-- With unlimited room, the innermost block is ended before the others. -/
theorem closeBlocks_succ (unlimited : outline.script.room = none) (count : Nat) :
    closeBlocks (count + 1) outline = closeBlocks count (outline.leave count) := by
  simp [closeBlocks, dedent_ok, write_ok, unlimited, leave]

/-- What an outline and its draft have in common. -/
structure Shows (label : Option String) (remarks : List Statement) (draft : Option Draft)
    (outline : Outline) : Prop where
  unlimited : outline.script.room = none
  whole : outline.script.torn = []
  labelled : outline.label = label
  started : outline.started = draft.isSome
  column : outline.script.column = draft.elim 0 Draft.column
  openBlocks : outline.openBlocks = draft.elim 0 Draft.openBlocks
  conjecture : outline.conjecture = draft.bind Draft.conjecture?
  theory : outline.theory = draft.elim [] Draft.theory
  proofLines : outline.script.proofLines = draft.elim [] (Draft.lines label)
  remarks : outline.script.remarks = remarks

variable {label : Option String} {remarks : List Statement} {draft : Draft}

/-- Before its first line an outline shows no draft. -/
theorem shows_blank (label : Option String) : Shows label [] none (blank label none) where
  -- Each field is read off the blank outline.
  unlimited := rfl
  whole := rfl
  labelled := rfl
  started := rfl
  column := rfl
  openBlocks := rfl
  conjecture := rfl
  theory := rfl
  proofLines := rfl
  remarks := rfl

/-- While a draft refutes, a block is open. -/
theorem Shows.opened {premises : List Clause} {conjecture : Option Clause} {body : List Statement}
    (shown : Shows label remarks (some (.refuting premises conjecture body)) outline) :
    outline.openBlocks ≠ 0 := by
  -- A conjecture takes two blocks, and falsity one.
  rw [shown.openBlocks]
  cases conjecture <;> simp [Draft.openBlocks, Draft.blocks]

/-- A remark is no part of the draft. -/
theorem Shows.remark {draft : Option Draft} (shown : Shows label remarks draft outline)
    (text : String) :
    Shows label (remarks ++ [.comment text]) draft (outline.push (.comment text)) :=
  { shown with
    proofLines := by simpa [Statement.isRemark] using shown.proofLines
    remarks := by simp [Statement.isRemark, shown.remarks] }

/-- Once it has its header, an outline shows a draft. -/
theorem Shows.begun {draft : Option Draft} (shown : Shows label remarks draft outline) :
    Shows label remarks (some (Draft.begun draft)) outline.begun := by
  unfold Outline.begun
  cases draft with
  | some draft =>
    -- The header stands already.
    have started : outline.started = true := shown.started
    rwa [if_pos started]
  | none =>
    have started : ¬ outline.started = true := by simp [shown.started]
    have column : outline.script.column = 0 := shown.column
    have lines : outline.script.proofLines = [] := shown.proofLines
    rw [if_neg started]
    -- The header is the first line that the proof reads, and the premises stand right of it.
    exact {
      unlimited := by simp [shown.unlimited]
      whole := shown.whole
      labelled := by simp [shown.labelled]
      started := by simp
      column := by simp [column, Draft.column]
      openBlocks := by simpa [Draft.openBlocks] using shown.openBlocks
      conjecture := by simpa [Draft.conjecture?] using shown.conjecture
      theory := by simpa [Draft.theory] using shown.theory
      proofLines := by
        simp [Statement.isRemark, lines, column, shown.labelled, Draft.lines, Draft.preamble]
      remarks := by simpa [Statement.isRemark] using shown.remarks }

/-- Starting makes sure that there is a draft. -/
theorem Shows.start {draft : Option Draft} (shown : Shows label remarks draft outline) :
    ∃ after, start outline = .ok () after ∧
      Shows label remarks (some (Draft.begun draft)) after :=
  ⟨_, start_ok shown.unlimited, shown.begun⟩

/-- An axiom or a definition is assumed, as a premise or in the innermost block. -/
theorem Shows.assume {clause : Clause} (shown : Shows label remarks (some draft) outline)
    (given : clause.role = .standing ∨ clause.role = .definition)
    (fresh : clause.name ∉ draft.theory) :
    ∃ after, root clause outline = .ok () after ∧
      Shows label remarks (some (draft.assume clause)) after := by
  have column : outline.script.column = draft.column := shown.column
  have theory : outline.theory = draft.theory := shown.theory
  have lines : outline.script.proofLines = draft.lines label := shown.proofLines
  -- The theory of the outline is that of the draft, so the name is new to it.
  have new : clause.name ∉ outline.theory := theory ▸ fresh
  refine ⟨_, root_ok_of_assumed shown.unlimited given, ?_⟩
  rw [addTheory_of_fresh (by simpa using new)]
  cases draft with
  | gathering premises =>
    -- No block is open, so the lemma gets one more premise.
    have closed : outline.openBlocks = 0 := shown.openBlocks
    rw [if_pos closed]
    exact { shown with
      openBlocks := closed
      theory := by simp [theory, Draft.assume, Draft.theory]
      proofLines := by
        simp [Statement.isRemark, lines, column, Draft.assume, Draft.lines, Draft.preamble,
          Draft.column]
      remarks := by simpa [Statement.isRemark] using shown.remarks }
  | refuting premises conjecture body =>
    rw [if_neg shown.opened]
    exact { shown with
      -- The assumption denies nothing, so the conjecture is the same as before.
      conjecture := by
        have conjectured := shown.conjecture
        cases conjecture <;>
          simpa [Draft.assume, Draft.conjecture?, Statement.denied?, List.findSome?_append]
            using conjectured
      theory := by simp [theory, Draft.assume, Draft.theory, Statement.supposed?]
      proofLines := by
        simp [Statement.isRemark, lines, column, Draft.assume, Draft.lines, Draft.column]
      remarks := by simpa [Statement.isRemark] using shown.remarks }

/-- The first conjecture becomes the conclusion of the lemma, or is denied in the innermost block. -/
theorem Shows.conclude {clause : Clause} (shown : Shows label remarks (some draft) outline)
    (role : clause.role = .conjecture) (first : draft.conjecture? = none) :
    ∃ after, root clause outline = .ok () after ∧
      Shows label remarks (some (draft.conclude clause)) after := by
  have column : outline.script.column = draft.column := shown.column
  have lines : outline.script.proofLines = draft.lines label := shown.proofLines
  -- The outline knows of no conjecture either.
  have unstated : outline.conjecture = none := shown.conjecture.trans first
  refine ⟨_, root_ok_of_first shown.unlimited role unstated, ?_⟩
  cases draft with
  | gathering premises =>
    have closed : outline.openBlocks = 0 := shown.openBlocks
    have margin : outline.script.column = 2 := column
    -- The lemma is stated, its conclusion denied in one block, and falsity left to another.
    rw [if_pos closed, concluding]
    exact {
      unlimited := by simp [shown.unlimited]
      whole := shown.whole
      labelled := by simp [shown.labelled]
      started := by simpa using shown.started
      openBlocks := by simp [closed, Draft.conclude, Draft.openBlocks, Draft.blocks]
      column := by simp [margin, Draft.conclude, Draft.column, Draft.blocks]
      conjecture := by simp [Draft.conclude, Draft.conjecture?]
      theory := by simpa [Draft.conclude, Draft.theory] using shown.theory
      proofLines := by
        simp [Statement.isRemark, lines, margin, Draft.conclude, Draft.lines, Draft.opening]
      remarks := by simpa [Statement.isRemark] using shown.remarks }
  | refuting premises conjecture body =>
    cases conjecture with
    | some stated => simp [Draft.conjecture?] at first
    | none =>
      -- Falsity is the conclusion already, so only the denial is left to assume.
      have undenied : body.findSome? Statement.denied? = none := first
      rw [if_neg shown.opened]
      exact { shown with
        conjecture := by
          simp [Draft.conclude, Draft.conjecture?, List.findSome?_append, undenied,
            Statement.denied?]
        theory := by
          simpa [Draft.conclude, Draft.theory, List.filterMap_cons, Statement.supposed?]
            using shown.theory
        proofLines := by
          simp [Statement.isRemark, lines, column, Draft.conclude, Draft.lines, Draft.column]
        remarks := by simpa [Statement.isRemark] using shown.remarks }

/-- A root becomes part of the draft, or is refused for the reason that the draft gives. -/
theorem Shows.root {clause : Clause} (shown : Shows label remarks (some draft) outline)
    (fresh : clause.name ∉ draft.theory) :
    ∃ after, Shows label remarks (some (draft.supply clause)) after ∧
      root clause outline = match draft.refusal? clause with
        | none => .ok () after
        | some fault => .error fault after := by
  have conjectured : outline.conjecture = draft.conjecture? := shown.conjecture
  -- The draft distinguishes the same roles as the outline does.
  cases role : clause.role with
  | standing =>
    obtain ⟨after, done, shows⟩ := shown.assume (.inl role) fresh
    exact ⟨after, by simpa [Draft.supply, role] using shows, by simp [Draft.refusal?, role, done]⟩
  | definition =>
    obtain ⟨after, done, shows⟩ := shown.assume (.inr role) fresh
    exact ⟨after, by simpa [Draft.supply, role] using shows, by simp [Draft.refusal?, role, done]⟩
  | conjecture =>
    cases stated : draft.conjecture? with
    | none =>
      obtain ⟨after, done, shows⟩ := shown.conclude role stated
      exact ⟨after, by simpa [Draft.supply, role, stated] using shows,
        by simp [Draft.refusal?, role, stated, done]⟩
    | some first =>
      -- A second conjecture is refused before anything is written.
      rw [stated] at conjectured
      exact ⟨outline, by simpa [Draft.supply, role, stated] using shown,
        by simp [Outline.root, Draft.refusal?, role, stated, conjectured]⟩
  | derived text =>
    exact ⟨outline, by simpa [Draft.supply, role] using shown,
      by simp [Outline.root, Draft.refusal?, role]⟩

/-- Making sure that a block is open refutes the premises if nothing does yet. -/
theorem Shows.ensureRefutation {draft : Option Draft}
    (shown : Shows label remarks draft outline) :
    ∃ after, ensureRefutation outline = .ok () after ∧
      Shows label remarks (some (Draft.begun draft).refute) after := by
  have shows := shown.begun
  refine ⟨_, ensureRefutation_ok shown.unlimited, ?_⟩
  -- Starting has opened no block.
  rw [← begun_fields.1]
  cases found : Draft.begun draft with
  | refuting premises conjecture body =>
    rw [found] at shows
    rwa [if_neg shows.opened]
  | gathering premises =>
    rw [found] at shows
    -- No block is open while premises are gathered.
    have closed : outline.begun.openBlocks = 0 := shows.openBlocks
    have margin : outline.begun.script.column = 2 := shows.column
    have lines : outline.begun.script.proofLines = Draft.preamble label premises := shows.proofLines
    -- The lemma concludes falsity, which one block proves.
    rw [if_pos closed, refuted]
    exact {
      unlimited := by simp [shown.unlimited]
      whole := shows.whole
      labelled := by simp [shows.labelled]
      started := by simpa using shows.started
      openBlocks := by simpa [Draft.refute, Draft.openBlocks, Draft.blocks] using closed
      column := by simp [margin, Draft.refute, Draft.column, Draft.blocks]
      conjecture := by simpa [Draft.refute, Draft.conjecture?] using shows.conjecture
      theory := by simpa [Draft.refute, Draft.theory] using shows.theory
      proofLines := by
        simp [Statement.isRemark, lines, margin, Draft.refute, Draft.lines, Draft.opening]
      remarks := by simpa [Statement.isRemark] using shows.remarks }

/-- Inside a block, a deduction is one more statement of the draft. -/
theorem Shows.deduce {premises : List Clause} {conjecture : Option Clause} {body : List Statement}
    (shown : Shows label remarks (some (.refuting premises conjecture body)) outline)
    (deduced : statement.isDeduction = true) :
    write statement outline = .ok () (outline.push statement) ∧
      Shows label remarks (some (.refuting premises conjecture (body ++ [statement])))
        (outline.push statement) := by
  -- What refutes stands inside the block of the conjecture, if there is one.
  have column : outline.script.column = 2 * Draft.blocks conjecture := shown.column
  -- Neither the conjecture nor the theory is read off a deduction.
  have undenied := Statement.denied?_of_isDeduction deduced
  have unsupposed := Statement.supposed?_of_isDeduction deduced
  have read := Statement.isRemark_of_isDeduction deduced
  refine ⟨write_ok shown.unlimited statement, ?_⟩
  exact { shown with
    conjecture := by
      have conjectured := shown.conjecture
      cases conjecture <;>
        simpa [Draft.conjecture?, List.findSome?_append, undenied] using conjectured
    theory := by
      simpa [Draft.theory, List.filterMap_cons, unsupposed] using shown.theory
    proofLines := by
      simp [read, shown.proofLines, column, Draft.lines]
    remarks := by simpa [read] using shown.remarks }

/-- Closing blocks writes an end for each, two columns left of the one before. -/
theorem closeBlocks_ok (count : Nat) :
    ∀ outline : Outline, outline.script.room = none → outline.script.column = 2 * count →
      ∃ after, closeBlocks count outline = .ok () after ∧
        after.script.proofLines = outline.script.proofLines ++ Draft.blockEnds count ∧
        after.script.remarks = outline.script.remarks := by
  -- Each end stands where the dedent before it has moved the script.
  induction count with
  | zero =>
    intro outline _ _
    exact ⟨outline, by simp [closeBlocks], by simp [Draft.blockEnds], rfl⟩
  | succ count ih =>
    intro outline unlimited column
    -- Before its line is written, the end of a block moves to the left.
    have moved : (outline.leave count).script.column = 2 * count := by
      simp only [leave_fields, column]
      omega
    obtain ⟨after, closed, lines, kept⟩ := ih (outline.leave count) unlimited moved
    refine ⟨after, ?_, ?_, ?_⟩
    · rwa [closeBlocks_succ unlimited]
    · simp [lines, Statement.isRemark, Draft.blockEnds, column, Nat.mul_add]
    · simp [kept, Statement.isRemark]

/-- Closing ends every open block of a draft. -/
theorem Shows.close (shown : Shows label remarks (some draft) outline) :
    ∃ after, close outline = .ok () after ∧
      after.script.proofLines = draft.closedLines label ∧ after.script.remarks = remarks := by
  have openBlocks : outline.openBlocks = draft.openBlocks := shown.openBlocks
  have lines : outline.script.proofLines = draft.lines label := shown.proofLines
  cases draft with
  | gathering premises =>
    -- No block is open, so there is nothing to end.
    have closed : outline.openBlocks = 0 := openBlocks
    refine ⟨outline, by simp [Outline.close, closed, closeBlocks], ?_, shown.remarks⟩
    simp [lines, Draft.closedLines, Draft.openBlocks, Draft.blockEnds]
  | refuting premises conjecture body =>
    -- A draft that refutes stands two columns to the right for every open block.
    have column : outline.script.column = 2 * Draft.blocks conjecture := shown.column
    obtain ⟨after, closed, added, kept⟩ := closeBlocks_ok _ outline shown.unlimited column
    refine ⟨after, ?_, ?_, kept.trans shown.remarks⟩
    · simpa [Outline.close, openBlocks, Draft.openBlocks] using closed
    · rw [added, lines]
      rfl

/-- A deduction is written in the innermost block, which is opened first if there is none. -/
theorem Shows.derive {draft : Option Draft} (shown : Shows label remarks draft outline)
    (deduced : statement.isDeduction = true) :
    ∃ opened, Outline.ensureRefutation outline = .ok () opened ∧
      write statement opened = .ok () (opened.push statement) ∧
      Shows label remarks (some ((Draft.begun draft).deduce [statement]))
        (opened.push statement) := by
  obtain ⟨opened, ensured, shows⟩ := shown.ensureRefutation
  refine ⟨opened, ensured, ?_⟩
  -- Either way the draft refutes once the block is open.
  cases found : Draft.begun draft with
  | gathering premises =>
    rw [found] at shows
    exact shows.deduce deduced
  | refuting premises conjecture body =>
    rw [found] at shows
    exact shows.deduce deduced

end Outline

end Retrace
