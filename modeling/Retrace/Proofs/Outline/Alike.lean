import Retrace.Proofs.Attempt.Tracking
import Retrace.Proofs.Outline

/-!
Two outlines that are alike: they agree in all but their lines, and their lines are related. Every
action on an outline keeps them alike if it is taken on both, as long as the lines stay related when
both sides get the same one.
-/

namespace Retrace

open Attempt (Any Tracks)

/-- A relation between the lines of two scripts. -/
abbrev LinesRelation : Type :=
  List Line → List Line → Prop

namespace LinesRelation

variable {relation : LinesRelation}

/-- Lines stay related if both sides get the same line with the statement. -/
def Takes (relation : LinesRelation) (statement : Statement) : Prop :=
  ∀ first second column, relation first second →
    relation (first ++ [⟨column, statement⟩]) (second ++ [⟨column, statement⟩])

/-- Lines stay related if both sides get the same line of the frame: no deduction and no remark. -/
def TakesFrame (relation : LinesRelation) : Prop :=
  ∀ statement : Statement, statement.isDeduction = false → statement.isRemark = false →
    relation.Takes statement

/-- Lines that are the same once each side has left out the statements of a kind. -/
def Without (mine yours : Statement → Bool) : LinesRelation := fun first second =>
  first.filter (! mine ·.statement) = second.filter (! yours ·.statement)

/-- Both sides may get a statement that both keep or both leave out. -/
theorem takes_without {mine yours : Statement → Bool} {statement : Statement}
    (same : mine statement = yours statement) : (Without mine yours).Takes statement := by
  intro first second column related
  rw [Without] at related ⊢
  rw [List.filter_append, List.filter_append, related]
  simp only [List.filter_cons, List.filter_nil, same]

end LinesRelation

namespace Script

/-- The lines that are left of a script without the statements of some kind. -/
def without (kind : Statement → Bool) (script : Script) : List Line :=
  script.lines.toList.filter (! kind ·.statement)

/-- The text that is left of a script without the statements of some kind, columns included. -/
def textWithout (kind : Statement → Bool) (script : Script) : String :=
  String.join ((script.without kind).map Line.text)

end Script

namespace Outline

variable {relation : LinesRelation} {mine yours : Statement → Bool} {one other : Outline}
  {statement : Statement}

/-- What two outlines have in common whose lines are related. -/
structure Alike (relation : LinesRelation) (one other : Outline) : Prop where
  label : one.label = other.label
  started : one.started = other.started
  conjecture : one.conjecture = other.conjecture
  openBlocks : one.openBlocks = other.openBlocks
  theory : one.theory = other.theory
  column : one.script.column = other.script.column
  unlimited : one.script.room = none ∧ other.script.room = none
  whole : one.script.torn = [] ∧ other.script.torn = []
  lines : relation one.script.lines.toList other.script.lines.toList

/-- Outlines are alike before their first line if no lines are related to none. -/
theorem alike_blank (label : Option String) (related : relation [] []) :
    Alike relation (blank label none) (blank label none) :=
  ⟨rfl, rfl, rfl, rfl, rfl, rfl, ⟨rfl, rfl⟩, ⟨rfl, rfl⟩, related⟩

/-- Outlines that differ in the statements each has to itself are the same without them. -/
theorem Alike.without (alike : Alike (.Without mine yours) one other) :
    one.script.without mine = other.script.without yours :=
  alike.lines

/-- Outlines that are alike take the same clauses for late conjectures. -/
theorem Alike.isLateConjecture_eq (alike : Alike relation one other) (clause : Clause) :
    one.isLateConjecture clause = other.isLateConjecture clause := by
  simp [isLateConjecture, alike.conjecture, alike.openBlocks]

/-- A line may be written to the one alone if that leaves the lines related. -/
theorem Alike.push_left {after : LinesRelation} (alike : Alike relation one other)
    (related : after (one.script.lines.toList ++ [⟨one.script.column, statement⟩])
      other.script.lines.toList) :
    Alike after (one.push statement) other :=
  { alike with lines := by simpa [push] using related }

/-- A line may be written to the other alone if that leaves the lines related. -/
theorem Alike.push_right {after : LinesRelation} (alike : Alike relation one other)
    (related : after one.script.lines.toList
      (other.script.lines.toList ++ [⟨other.script.column, statement⟩])) :
    Alike after one (other.push statement) :=
  { alike with lines := by simpa [push] using related }

/-- The same line may be written to both. -/
theorem tracks_write (takes : relation.Takes statement) :
    Tracks (Alike relation) Any (write statement) (write statement) := by
  intro one other alike
  rw [write_ok alike.unlimited.1, write_ok alike.unlimited.2]
  -- The line stands at the same column in both scripts.
  exact .returned trivial { alike with
    lines := by simpa [push, alike.column] using takes _ _ other.script.column alike.lines }

/-- A statement that the one has to itself may be written by it alone. -/
theorem tracks_write_left (own : mine statement = true) :
    Tracks (Alike (.Without mine yours)) Any (write statement) (pure ()) := by
  intro one other alike
  rw [write_ok alike.unlimited.1]
  -- The line is left out of what they have in common.
  refine .returned trivial (alike.push_left ?_)
  simpa [LinesRelation.Without, own] using alike.lines

/-- A statement that the other has to itself may be written by it alone. -/
theorem tracks_write_right (own : yours statement = true) :
    Tracks (Alike (.Without mine yours)) Any (pure ()) (write statement) := by
  intro one other alike
  rw [write_ok alike.unlimited.2]
  -- As before, what they have in common is the same without the line.
  refine .returned trivial (alike.push_right ?_)
  simpa [LinesRelation.Without, own] using alike.lines

/-- Both may move to the left. -/
theorem tracks_dedent : Tracks (Alike relation) Any dedent dedent :=
  .modify fun _ _ alike => { alike with
    column := congrArg (· - blockIndent) alike.column }

/-- Both may move to the right. -/
theorem tracks_indent : Tracks (Alike relation) Any indent indent :=
  .modify fun _ _ alike => { alike with
    column := congrArg (· + blockIndent) alike.column }

/-- Both may open a block with the same statement. -/
theorem tracks_openBlock (takes : relation.Takes statement) :
    Tracks (Alike relation) Any (openBlock statement) (openBlock statement) := by
  unfold openBlock
  -- The block is counted behind its first line.
  refine (tracks_write takes).andThen (tracks_indent.andThen ?_)
  exact .modify fun _ _ alike => { alike with
    openBlocks := congrArg (· + 1) alike.openBlocks }

/-- Both count a name among the theory, or have it there already. -/
theorem tracks_addTheory (name : String) :
    Tracks (Alike relation) Any (modify (addTheory name)) (modify (addTheory name)) := by
  refine .modify fun left right alike => ?_
  unfold addTheory
  rw [alike.theory]
  -- Each name is counted once.
  split
  · exact alike
  · exact { alike with theory := rfl }

variable (takes : relation.TakesFrame)

include takes

/-- Both are started, or have been before. -/
theorem tracks_start : Tracks (Alike relation) Any start start := by
  unfold start
  refine Tracks.get.bind fun left right alike => ?_
  rw [alike.started]
  -- The header is written once, and carries the same label.
  split
  · exact .pure trivial
  · have header : Tracks (Alike relation) Any (write (.header left.label))
        (write (.header right.label)) := by
      rw [alike.label]
      exact tracks_write (takes _ rfl rfl)
    exact (Tracks.set { alike with started := rfl }).andThen (header.andThen tracks_indent)

/-- Both take a root, or refuse it for the same reason. -/
theorem tracks_root (clause : Clause) :
    Tracks (Alike relation) Any (root clause) (root clause) := by
  unfold root
  cases clause.role with
  | standing | definition =>
    refine Tracks.get.bind fun left right alike => ?_
    simp only [alike.openBlocks]
    -- Whether a block is open decides how the clause is assumed.
    split
    · exact (tracks_write (takes _ rfl rfl)).andThen (tracks_addTheory _)
    · exact (tracks_write (takes _ rfl rfl)).andThen (tracks_addTheory _)
  | conjecture =>
    refine Tracks.get.bind fun left right alike => ?_
    simp only [alike.conjecture]
    -- A second conjecture is refused, and the first one is stated or only denied.
    split
    · exact .throw_bind _ _ _
    · refine (Tracks.modify fun _ _ alike => { alike with conjecture := rfl }).andThen ?_
      refine Tracks.get.bind fun left right alike => ?_
      rw [alike.openBlocks]
      split
      · refine (tracks_write (takes _ rfl rfl)).andThen (tracks_dedent.andThen ?_)
        refine (tracks_openBlock (takes _ rfl rfl)).andThen ?_
        refine (tracks_write (takes _ rfl rfl)).andThen ?_
        exact (tracks_write (takes _ rfl rfl)).andThen (tracks_openBlock (takes _ rfl rfl))
      · exact tracks_write (takes _ rfl rfl)
  | derived role => exact .throw _

/-- Both make sure that a block is open. -/
theorem tracks_ensureRefutation :
    Tracks (Alike relation) Any ensureRefutation ensureRefutation := by
  unfold ensureRefutation
  refine (tracks_start takes).andThen (Tracks.get.bind fun left right alike => ?_)
  rw [alike.openBlocks]
  -- Either a block is open in both, or one is opened in both.
  split
  · refine (tracks_write (takes _ rfl rfl)).andThen ?_
    exact tracks_dedent.andThen (tracks_openBlock (takes _ rfl rfl))
  · exact .pure trivial

/-- Both close the given number of blocks. -/
theorem tracks_closeBlocks (count : Nat) :
    Tracks (Alike relation) Any (closeBlocks count) (closeBlocks count) := by
  -- Each block is ended at the same column, one after the other.
  induction count with
  | zero => exact .pure trivial
  | succ count ih =>
    rw [closeBlocks]
    refine tracks_dedent.andThen ((tracks_write (takes _ rfl rfl)).andThen ?_)
    exact (Tracks.modify fun _ _ alike => { alike with openBlocks := rfl }).andThen ih

/-- Both close all of their blocks, which are equally many. -/
theorem tracks_close : Tracks (Alike relation) Any close close := by
  unfold close
  -- The number of blocks is read off outlines that are alike.
  refine Tracks.get.bind fun left right alike => ?_
  rw [alike.openBlocks]
  exact tracks_closeBlocks takes _

end Outline

end Retrace
