import Retrace.Proofs.Outline
import Retrace.Proofs.Script.Wording

/-!
Outlines whose actions are called in any order. Whatever was called, with whatever clauses, and
whether it returned or stopped: the blocks that were begun and have no end yet are those counted as
open, and the script stands far enough to the right for each of them to end in a column of its own.
-/

namespace Retrace

namespace Statement

variable {statement : Statement}

/-- The statements that begin a block. -/
def beginsBlock : Statement → Bool
  | contradictionBlock | plainBlock => true
  | _ => false

/-- The statement that ends a block. -/
def endsBlock : Statement → Bool
  | blockEnd => true
  | _ => false

/-- The first words of a statement tell whether it begins or ends a block. -/
theorem isPrefixOf_block (own : statement.isVerbatim = false) :
    "proof ".toList.isPrefixOf statement.text.toList = statement.beginsBlock ∧
      "qed".toList.isPrefixOf statement.text.toList = statement.endsBlock := by
  -- The first words are the same for all statements of a form, headers and conclusions apart.
  cases statement with
  | verbatim text => cases own
  | header label => cases label <;> simp [text, beginsBlock, endsBlock, List.isPrefixOf]
  | conclusion chained => cases chained <;> simp [text, beginsBlock, endsBlock, List.isPrefixOf]
  | ruleConclusion tips number =>
    by_cases empty : tips.isEmpty = true <;>
      simp [text, beginsBlock, endsBlock, empty, List.isPrefixOf]
  | _ => simp [text, beginsBlock, endsBlock, List.isPrefixOf]

end Statement

/-- How many lines of a script start with the given words, their columns apart. -/
def Script.linesStarting (words : String) (script : Script) : Nat :=
  script.lines.toList.countP (startsWith words ·.written)

namespace Outline

variable {outline : Outline} {statement : Statement}

/-- A further line is counted if it starts with the words. -/
theorem linesStarting_push {words : String} {counted : Bool} (own : statement.isVerbatim = false)
    (starts : words.toList.isPrefixOf statement.text.toList = counted) :
    (outline.push statement).script.linesStarting words =
      outline.script.linesStarting words + counted.toNat := by
  -- The words of a line are those of its statement.
  have shown : startsWith words (Line.mk outline.script.column statement).written = counted :=
    (Line.startsWith_written own words).trans starts
  cases counted <;> simp [Script.linesStarting, push, shown]

/-- The line that opens a block is counted as any other, wherever the next one starts. -/
theorem linesStarting_enter {words : String} {counted : Bool} (own : statement.isVerbatim = false)
    (starts : words.toList.isPrefixOf statement.text.toList = counted) :
    (outline.enter statement).script.linesStarting words =
      outline.script.linesStarting words + counted.toNat :=
  linesStarting_push own starts

/-- So is the end of a block. -/
theorem linesStarting_leave {words : String} {counted : Bool} {count : Nat}
    (starts : words.toList.isPrefixOf (Statement.text .blockEnd).toList = counted) :
    (outline.leave count).script.linesStarting words =
      outline.script.linesStarting words + counted.toNat := by
  -- Moving to the left has not changed what is counted before.
  have written : (outline.outdented.push .blockEnd).script.linesStarting words =
      outline.outdented.script.linesStarting words + counted.toNat := linesStarting_push rfl starts
  exact written

/-- An outline in which blocks balance: those that were begun and not ended count as open, and
the script stands two columns to the right for each of them. Only a header that is written late
moves it further than that. -/
structure Balanced (outline : Outline) : Prop where
  unlimited : outline.script.room = none
  blocks : outline.script.linesStarting "proof " =
    outline.script.linesStarting "qed" + outline.openBlocks
  column : 2 * outline.openBlocks ≤ outline.script.column
  near : outline.script.column ≤ 2 * outline.openBlocks + if outline.started then 2 else 0

/-- Before its first line an outline is balanced. -/
theorem balanced_blank (label : Option String) : Balanced (blank label none) :=
  ⟨rfl, rfl, Nat.le_refl 0, Nat.le_refl 0⟩

namespace Balanced

/-- A statement that neither begins nor ends a block may be written anywhere. -/
theorem push (balanced : Balanced outline) (own : statement.isVerbatim = false)
    (begins : statement.beginsBlock = false) (ends : statement.endsBlock = false) :
    Balanced (outline.push statement) := by
  have starts := Statement.isPrefixOf_block own
  refine { balanced with blocks := ?_ }
  rw [linesStarting_push own starts.1, linesStarting_push own starts.2, begins, ends]
  exact balanced.blocks

/-- A block begins where the script stands, and what follows stands to the right of it. -/
theorem enter (balanced : Balanced outline) (own : statement.isVerbatim = false)
    (begins : statement.beginsBlock = true) (ends : statement.endsBlock = false) :
    Balanced (outline.enter statement) := by
  have starts := Statement.isPrefixOf_block own
  obtain ⟨unlimited, blocks, column, near⟩ := balanced
  refine ⟨by simpa using unlimited, ?_, ?_, ?_⟩
  · -- One block more is begun and one more is open, and the script moves by its columns.
    rw [linesStarting_enter own starts.1, linesStarting_enter own starts.2, begins, ends, blocks]
    rfl
  · simp only [enter_fields]
    omega
  · simp only [enter_fields]
    omega

/-- A block is ended two columns left of what it holds. -/
theorem leave {count : Nat} (balanced : Balanced outline)
    (opened : outline.openBlocks = count + 1) : Balanced (outline.leave count) := by
  have starts := @Statement.isPrefixOf_block .blockEnd rfl
  obtain ⟨unlimited, blocks, column, near⟩ := balanced
  refine ⟨by simpa using unlimited, ?_, ?_, ?_⟩
  · -- One block more is ended, and one less is open.
    rw [linesStarting_leave starts.1, linesStarting_leave starts.2, blocks, opened]
    change _ + (count + 1) + 0 = _ + 1 + count
    omega
  · simp only [leave_fields]
    omega
  · simp only [leave_fields]
    omega

/-- Outside of all blocks the script may move to the left. -/
theorem outdented (balanced : Balanced outline) (closed : outline.openBlocks = 0) :
    Balanced outline.outdented := by
  have near := balanced.near
  refine { balanced with column := by simp [closed], near := ?_ }
  simp only [outdented_fields]
  omega

/-- The header is written once, and moves what follows to the right. -/
theorem begun (balanced : Balanced outline) : Balanced outline.begun := by
  unfold Outline.begun
  split
  · exact balanced
  · rename_i late
    -- Only now may the script stand further to the right than its blocks.
    have written : Balanced (outline.push (.header outline.label)) := balanced.push rfl rfl rfl
    have near := balanced.near
    rw [if_neg late] at near
    refine ⟨written.unlimited, written.blocks, ?_, ?_⟩
    · exact Nat.le_add_right_of_le written.column
    · exact Nat.add_le_add_right near 2

/-- A block that refutes the assumptions may be opened if there is none. -/
theorem refuted (balanced : Balanced outline) (closed : outline.openBlocks = 0) :
    Balanced outline.refuted := by
  -- From its last line back: the block is opened where the conclusion has been stated.
  refine .enter ?_ rfl rfl rfl
  exact .outdented (.push balanced rfl rfl rfl) closed

/-- The lemma may get its conclusion, and the two blocks for it, if no block is open. -/
theorem concluding (balanced : Balanced outline) (closed : outline.openBlocks = 0)
    (clause : Clause) : Balanced (outline.concluding clause) := by
  -- The inner block is opened behind the denial, and the outer one before it.
  refine .enter ?_ rfl rfl rfl
  refine .push (.push ?_ rfl rfl rfl) rfl rfl rfl
  refine .enter ?_ rfl rfl rfl
  exact .outdented (.push balanced rfl rfl rfl) closed

/-- Counting a name among the theory moves nothing. -/
theorem addTheory (balanced : Balanced outline) (name : String) :
    Balanced (outline.addTheory name) := by
  unfold Outline.addTheory
  split
  · exact balanced
  · exact { balanced with }

end Balanced

/-- Closing gives an end to each open block, two columns left of what stands before it, and changes
nothing else but that no block is open any more. -/
structure Closes (outline closed : Outline) (ends : List Line) : Prop where
  balanced : Balanced closed
  openBlocks : closed.openBlocks = 0
  conjecture : closed.conjecture = outline.conjecture
  theory : closed.theory = outline.theory
  lines : closed.script.lines.toList = outline.script.lines.toList ++ ends
  ended : ends.map Line.statement = List.replicate outline.openBlocks .blockEnd
  descends : (outline.script.column :: ends.map Line.column).IsChain
    fun right left => right = left + 2

/-- In a balanced outline every open block can be closed. -/
theorem Balanced.closes {count : Nat} (balanced : Balanced outline)
    (opened : outline.openBlocks = count) :
    ∃ closed ends, closeBlocks count outline = .ok () closed ∧ Closes outline closed ends := by
  induction count generalizing outline with
  | zero =>
    exact ⟨outline, [], rfl, balanced, opened, rfl, rfl, by simp, by simp [opened], by simp⟩
  | succ count ih =>
    -- The others are closed as they would be without the innermost block.
    obtain ⟨closed, ends, done, closes⟩ := ih (balanced.leave opened) leave_fields.2.2.1
    -- The innermost block ends two columns to the left of what it holds.
    have stands : outline.script.column = outline.script.column - 2 + 2 := by
      have column := balanced.column
      omega
    refine ⟨closed, ⟨outline.script.column - 2, .blockEnd⟩ :: ends, ?_, ?_⟩
    · rwa [closeBlocks_succ balanced.unlimited]
    · exact { closes with
        lines := by simp [closes.lines]
        ended := by simp [closes.ended, opened, List.replicate_succ]
        descends := List.isChain_cons_cons.mpr ⟨stands, closes.descends⟩ }

/-- A call of one of the actions on an outline. -/
inductive Call where
  | start
  | root (clause : Clause)
  | ensureRefutation
  | conclude (chained : Bool)
  | close
  deriving DecidableEq, Repr

namespace Call

/-- The attempt that is made on the outline. -/
def attempt : Call → Attempt Outline Unit
  | start => Outline.start
  | root clause => Outline.root clause
  | ensureRefutation => Outline.ensureRefutation
  | conclude chained => Outline.conclude chained
  | close => Outline.close

/-- The name of the axiom or definition that a call supplies. -/
def assumed? : Call → Option String
  | root clause =>
    match clause.role with
    | .standing | .definition => some clause.name
    | _ => none
  | _ => none

/-- The name of the conjecture that a call supplies, be it the first one or not. -/
def conjectured? : Call → Option String
  | root clause =>
    match clause.role with
    | .conjecture => some clause.name
    | _ => none
  | _ => none

end Call

/-- The outline that is left once several calls were made, whichever of them stopped. -/
def pastAll (calls : List Call) (outline : Outline) : Outline :=
  calls.foldl (fun outline call => call.attempt.left outline) outline

/-- A further call is made on what the calls before it have left. -/
theorem pastAll_snoc (calls : List Call) (call : Call) (outline : Outline) :
    pastAll (calls ++ [call]) outline = call.attempt.left (pastAll calls outline) := by
  simp [pastAll]

/-- What a call makes of a balanced outline: blocks stay balanced, the conjecture is noted unless
there is one, and a name comes behind the theory unless it belongs to it. -/
structure Advances (call : Call) (outline after : Outline) : Prop where
  balanced : Balanced after
  conjecture : after.conjecture = outline.conjecture.or call.conjectured?
  theory : after.theory = outline.theory ++ call.assumed?.toList.removeAll outline.theory

/-- A call that supplies no name may change all but the names that are kept. -/
theorem Advances.of_unnamed {call : Call} {after : Outline} (balanced : Balanced after)
    (kept : after.conjecture = outline.conjecture ∧ after.theory = outline.theory)
    (unnamed : call.conjectured? = none ∧ call.assumed? = none) : Advances call outline after where
  balanced := balanced
  conjecture := by simp [kept.1, unnamed.1]
  theory := by simp [kept.2, unnamed.2]

/-- An axiom or a definition is assumed, and its name counted. -/
theorem Balanced.assume {clause : Clause} (balanced : Balanced outline)
    (given : clause.role = .standing ∨ clause.role = .definition) :
    Advances (.root clause) outline ((root clause).left outline) := by
  have named : (Call.root clause).conjectured? = none ∧
      (Call.root clause).assumed? = some clause.name := by
    rcases given with role | role <;> simp [Call.conjectured?, Call.assumed?, role]
  -- Both kinds of assumption are lines that neither begin nor end a block.
  have written : Balanced (outline.push (if outline.openBlocks = 0
      then .premise clause.name clause.formula else .supposition clause.name clause.formula)) := by
    split
    · exact balanced.push rfl rfl rfl
    · exact balanced.push rfl rfl rfl
  simp only [Attempt.left, root_ok_of_assumed balanced.unlimited given]
  exact ⟨written.addTheory clause.name, by simp [addTheory_fields, named.1],
    by simp [addTheory_fields, named.2]⟩

/-- The first conjecture is stated or only denied, and is noted either way. -/
theorem Balanced.state {clause : Clause} (balanced : Balanced outline)
    (role : clause.role = .conjecture) (first : outline.conjecture = none) :
    Advances (.root clause) outline ((root clause).left outline) := by
  have named : (Call.root clause).conjectured? = some clause.name ∧
      (Call.root clause).assumed? = none := by
    simp [Call.conjectured?, Call.assumed?, role]
  have noted : Balanced { outline with conjecture := some clause.name } := { balanced with }
  simp only [Attempt.left, root_ok_of_first balanced.unlimited role first]
  -- With no block open the lemma is stated and two blocks are begun; otherwise there is one line
  -- more.
  split
  · rename_i closed
    exact ⟨noted.concluding closed clause, by simp [first, named.1], by simp [named.2]⟩
  · exact ⟨noted.push rfl rfl rfl, by simp [first, named.1], by simp [named.2]⟩

/-- A root advances an outline; if it is refused, there is nothing to do. -/
theorem Balanced.root (balanced : Balanced outline) (clause : Clause) :
    Advances (.root clause) outline ((Outline.root clause).left outline) := by
  cases role : clause.role with
  | standing => exact balanced.assume (.inl role)
  | definition => exact balanced.assume (.inr role)
  | conjecture =>
    cases stated : outline.conjecture with
    | none => exact balanced.state role stated
    | some first =>
      -- A second conjecture is refused before anything is written.
      have refused : (Outline.root clause).left outline = outline := by
        simp [Attempt.left, Outline.root, role, stated]
      rw [refused]
      exact ⟨balanced, by simp [stated], by simp [Call.assumed?, role]⟩
  | derived text =>
    -- So is a root of another role.
    have refused : (Outline.root clause).left outline = outline := by
      simp [Attempt.left, Outline.root, role]
    rw [refused]
    exact .of_unnamed balanced ⟨rfl, rfl⟩ (by simp [Call.conjectured?, Call.assumed?, role])

/-- Whatever is called, and whether it returns or stops, a balanced outline advances. -/
theorem Balanced.advances (balanced : Balanced outline) (call : Call) :
    Advances call outline (call.attempt.left outline) := by
  have unlimited := balanced.unlimited
  -- Each call has a lemma that says what it leaves behind with unlimited room.
  cases call with
  | start =>
    simp only [Call.attempt, Attempt.left, start_ok unlimited]
    exact .of_unnamed balanced.begun (by simp) ⟨rfl, rfl⟩
  | root clause => exact balanced.root clause
  | ensureRefutation =>
    simp only [Call.attempt, Attempt.left, ensureRefutation_ok unlimited]
    split
    · -- The refutation is opened if no block is open, and else there is nothing to do.
      rename_i closed
      have none : outline.begun.openBlocks = 0 := by simpa using closed
      exact .of_unnamed (balanced.begun.refuted none) (by simp) ⟨rfl, rfl⟩
    · exact .of_unnamed balanced.begun (by simp) ⟨rfl, rfl⟩
  | conclude chained =>
    simp only [Call.attempt, Attempt.left, Outline.conclude, write_ok unlimited]
    exact .of_unnamed (balanced.push rfl rfl rfl) ⟨rfl, rfl⟩ ⟨rfl, rfl⟩
  | close =>
    -- Closing writes the ends of the blocks, and names nothing.
    obtain ⟨closed, ends, done, closes⟩ := balanced.closes rfl
    have closing : Outline.close outline = .ok () closed := by simpa [Outline.close] using done
    simp only [Call.attempt, Attempt.left, closing]
    exact .of_unnamed closes.balanced ⟨closes.conjecture, closes.theory⟩ ⟨rfl, rfl⟩

/-- Whatever is called, blocks stay balanced. -/
theorem balanced_pastAll (balanced : Balanced outline) (calls : List Call) :
    Balanced (pastAll calls outline) := by
  -- The calls are made one after the other, each on a balanced outline.
  induction calls generalizing outline with
  | nil => exact balanced
  | cons call calls ih => exact ih (balanced.advances call).balanced

/-- The conjecture that is kept is the first one. -/
theorem conjecture_pastAll (balanced : Balanced outline) (calls : List Call) :
    (pastAll calls outline).conjecture =
      outline.conjecture.or (calls.findSome? Call.conjectured?) := by
  induction calls generalizing outline with
  | nil => simp [pastAll]
  | cons call calls ih =>
    have advances := balanced.advances call
    rw [pastAll, List.foldl_cons, ← pastAll, ih advances.balanced, advances.conjecture,
      Option.or_assoc, List.findSome?_cons]
    cases call.conjectured? <;> simp

/-- The theory are the names of the axioms and definitions that were supplied, each where it stands
first. -/
theorem theory_pastAll (balanced : Balanced outline) (empty : outline.theory = [])
    (calls : List Call) :
    (pastAll calls outline).theory = (calls.filterMap Call.assumed?).eraseDups := by
  -- Each call adds to the theory of the calls before it.
  induction calls using List.reverseRecOn with
  | nil => simpa [pastAll] using empty
  | append_singleton calls call ih =>
    have advances := (balanced_pastAll balanced calls).advances call
    rw [pastAll_snoc, advances.theory, ih, List.filterMap_append, List.eraseDups_append]
    generalize calls.filterMap Call.assumed? = names
    cases named : call.assumed? with
    | none => simp [named]
    | some name =>
      by_cases known : name ∈ names <;> simp [named, List.removeAll, known, List.eraseDups_cons]

/-- Whatever is called on a blank outline with unlimited room, in whichever order and with whatever
clauses, and whether the calls return or stop: as many blocks count as open as were begun and not
ended, and the script stands at least two columns to the right for each of them, and at most two
columns more. The conjecture is not exchanged for another one by any later call, and the theory are
the names of the axioms and definitions that were supplied, each once, in the order in which they
first came. So closing succeeds, and writes one end for each open block and nothing else. The first
one stands two columns left of where the script stood, and each further one two columns left of the
one before: no move to the left is cut short at the margin. -/
theorem pastAll_blocks (label : Option String) (calls : List Call) :
    let outline := pastAll calls (blank label none)
    outline.script.linesStarting "proof " =
        outline.script.linesStarting "qed" + outline.openBlocks ∧
      2 * outline.openBlocks ≤ outline.script.column ∧
      outline.script.column ≤ 2 * outline.openBlocks + 2 ∧
      (∀ name later, outline.conjecture = some name →
        (pastAll later outline).conjecture = some name) ∧
      outline.theory = (calls.filterMap Call.assumed?).eraseDups ∧
      ∃ closed ends, close outline = .ok () closed ∧ closed.openBlocks = 0 ∧
        closed.script.lines.toList = outline.script.lines.toList ++ ends ∧
        ends.map Line.statement = List.replicate outline.openBlocks .blockEnd ∧
        (outline.script.column :: ends.map Line.column).IsChain
          fun right left => right = left + 2 := by
  intro outline
  have balanced : Balanced outline := balanced_pastAll (balanced_blank label) calls
  obtain ⟨closed, ends, done, closes⟩ := balanced.closes rfl
  -- Only the header of the lemma moves the script further than its blocks do.
  have near : outline.script.column ≤ 2 * outline.openBlocks + 2 := by
    have near := balanced.near
    split at near <;> omega
  refine ⟨balanced.blocks, balanced.column, near, ?_, ?_, closed, ends, ?_, closes.openBlocks,
    closes.lines, closes.ended, closes.descends⟩
  · -- A conjecture that is noted is never replaced.
    intro name later stated
    rw [conjecture_pastAll balanced, stated, Option.some_or]
  · exact theory_pastAll (balanced_blank label) rfl calls
  · simpa [close] using done

/-- A clause without parents, in a given role. -/
def sampleRoot (name : String) (role : Role) : Clause :=
  { language := .fof, name, role, formula := "p", givenFormula := "p", givenJustification := "",
    parents := [], line := 1 }

/-- Calls of which a conjecture comes before the header, and falsity when all blocks were closed. -/
def sampleCalls : List Call :=
  [.root (sampleRoot "g" .conjecture), .start, .close, .root (sampleRoot "a" .standing),
    .ensureRefutation]

/-- Neither a second conjecture, which is refused, nor anything else exchanges the first one. -/
theorem pastAll_blocks_sample :
    (pastAll sampleCalls (blank none none)).conjecture = some "g" ∧
      (pastAll [.root (sampleRoot "h" .conjecture), .close]
        (pastAll sampleCalls (blank none none))).conjecture = some "g" := by
  have stated : (pastAll sampleCalls (blank none none)).conjecture = some "g" := rfl
  exact ⟨stated, (pastAll_blocks none sampleCalls).2.2.2.1 "g" _ stated⟩

end Outline

end Retrace
