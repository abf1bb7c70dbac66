import Retrace.Proofs.Draft.Introductions
import Retrace.Proofs.Reconstruction.Pairing
import Retrace.Proofs.Session.Blocks

/-!
Two sessions that are fed the same trace. As long as their reconstructions go in step so do they,
and both methods, which do, leave scripts that share one frame.
-/

namespace Retrace

open Attempt (Any Tracks)

/-- Reconstructions that are related go in step: they take every clause together, or refuse it for
the same reason, and they find the same conjectures late. -/
structure Reconstruction.InStep (related : Reconstruction → Reconstruction → Prop) : Prop where
  step (clause : Clause) : Tracks related Any (step clause) (step clause)
  late {one other : Reconstruction} (pair : related one other) (clause : Clause) :
    one.outline.isLateConjecture clause = other.outline.isLateConjecture clause

/-- The two methods go in step. -/
theorem Reconstruction.inStep_paired : InStep Paired where
  step := tracks_step
  late pair := pair.alike.isLateConjecture_eq

/-- Two summaries count the same clauses. -/
structure Summary.SameCounts (one other : Summary) : Prop where
  clauses : one.clauses = other.clauses
  roots : one.roots = other.roots
  derived : one.derived = other.derived

namespace Session

variable {first second : Preferences} {related : Reconstruction → Reconstruction → Prop}

/-- What two sessions have in common whose reconstructions are related. -/
structure Alike (first second : Preferences) (related : Reconstruction → Reconstruction → Prop)
    (one other : Session) : Prop where
  preferences : one.preferences = first ∧ other.preferences = second
  graph : one.graph = other.graph
  roots : one.roots = other.roots
  derived : one.derived = other.derived
  notes : one.notes = other.notes
  reconstruction : related one.reconstruction other.reconstruction

/-- Both sessions make the same note. -/
theorem tracks_note (remark : Note) :
    Tracks (Alike first second related) Any (note remark) (note remark) :=
  .modify fun _ _ alike => { alike with notes := by rw [alike.notes] }

/-- Both sessions count a clause in the same way. -/
theorem tracks_count (clause : Clause) :
    Tracks (Alike first second related) Any (modify (count clause)) (modify (count clause)) := by
  refine .modify fun _ _ alike => ?_
  unfold count
  -- Roots and derived clauses are counted apart.
  split
  · exact { alike with roots := by rw [alike.roots] }
  · exact { alike with derived := by rw [alike.derived] }

/-- What the reconstructions do in step, the sessions do. -/
theorem tracks_onReconstruction {α : Type} {values : α → α → Prop}
    {one other : Attempt Reconstruction α} (tracked : Tracks related values one other) :
    Tracks (Alike first second related) values (onReconstruction one) (onReconstruction other) :=
  tracked.onPart (fun _ _ alike => alike.reconstruction)
    fun _ _ _ _ alike reconstruction => { alike with reconstruction }

/-- Both sessions make a note, or neither does. -/
theorem tracks_note_if {due owed : Bool} (same : due = owed) (remark : Note) :
    Tracks (Alike first second related) Any (if due then note remark else pure ())
      (if owed then note remark else pure ()) := by
  subst same
  -- With nothing to note, both sessions are left as they are.
  split
  · exact tracks_note remark
  · exact .pure trivial

/-- Both sessions close their scripts, with the same counts. -/
theorem tracks_finish {closings : Closing → Closing → Prop}
    (closes : ∀ graph, Tracks related closings (Reconstruction.finish graph)
      (Reconstruction.finish graph)) :
    Tracks (Alike first second related) Summary.SameCounts finish finish := by
  unfold finish
  -- Both reconstructions are closed with the same graph, and the counts are read off afterwards.
  refine Tracks.get.bind fun one other alike => ?_
  rw [alike.graph]
  refine (tracks_onReconstruction (closes _)).bind fun _ _ _ => ?_
  refine Tracks.get.bind fun one other alike => .pure ?_
  exact ⟨by rw [alike.graph], alike.roots, alike.derived⟩

section Trace

variable (inStep : Reconstruction.InStep related)
  (asked : first.veryVerbose = second.veryVerbose)

include inStep asked

/-- Both sessions take a clause, or refuse it for the same reason. -/
theorem tracks_take (clause : Clause) :
    Tracks (Alike first second related) Any (take clause) (take clause) := by
  unfold take
  refine .ite_andThen (tracks_note_if rfl _) (Tracks.get.bind fun one other alike => ?_)
  rw [alike.preferences.1, alike.preferences.2]
  refine .ite_andThen (tracks_note_if asked _) ?_
  -- The graphs are the same, so that they judge the clause alike.
  refine (tracks_count clause).andThen (Tracks.get.bind fun one other alike => ?_)
  rw [alike.graph]
  refine (Tracks.ofExcept _).bind fun grown _ same => ?_
  obtain rfl := same
  refine (Tracks.modify fun _ _ alike => { alike with graph := rfl }).andThen ?_
  refine Tracks.get.bind fun one other alike => ?_
  exact .ite_andThen (tracks_note_if (inStep.late alike.reconstruction clause) _)
    (tracks_onReconstruction (inStep.step clause))

variable (echoes : ∀ text, Tracks (Alike first second related) Any
  (if first.verbose then echo text else pure ()) (if second.verbose then echo text else pure ()))

include echoes

/-- Both sessions take a line, or refuse it for the same reason. -/
theorem tracks_feedLine (number : Nat) (text : String) :
    Tracks (Alike first second related) Any (feedLine number text) (feedLine number text) := by
  unfold feedLine
  refine Tracks.get.bind fun one other alike => ?_
  rw [alike.preferences.1, alike.preferences.2]
  refine .ite_andThen (echoes text) ?_
  -- Reading the line does not depend on the session.
  refine (Tracks.ofExcept _).bind fun found _ same => ?_
  obtain rfl := same
  cases found with
  | none => exact .pure trivial
  | some entry =>
    refine (Tracks.ofExcept _).bind fun clause _ same => ?_
    obtain rfl := same
    exact tracks_take inStep asked clause

/-- Both sessions take lines up to the same one. -/
theorem tracks_feedLines (number : Nat) (texts : List String) :
    Tracks (Alike first second related) Any (feedLines number texts) (feedLines number texts) := by
  -- The sessions are alike behind every line that is taken.
  induction texts generalizing number with
  | nil => exact .pure trivial
  | cons text texts ih =>
    exact (tracks_feedLine inStep asked echoes number text).andThen (ih (number + 1))

/-- Both sessions take a whole trace and close their scripts, or refuse it for the same reason. -/
theorem tracks_runText {closings : Closing → Closing → Prop}
    (closes : ∀ graph, Tracks related closings (Reconstruction.finish graph)
      (Reconstruction.finish graph)) (trace : String) :
    Tracks (Alike first second related) Summary.SameCounts (runText trace) (runText trace) :=
  (tracks_feedLines inStep asked echoes 1 _).andThen (tracks_finish closes)

end Trace

/-- Both sessions write a line as a comment, or neither does. -/
theorem tracks_echo (remarks : ∀ text, Tracks related Any
      (Reconstruction.onOutline (Outline.write (.comment text)))
      (Reconstruction.onOutline (Outline.write (.comment text)))) (text : String) :
    Tracks (Alike first second related) Any (echo text) (echo text) := by
  unfold echo
  simp only
  -- A blank line leaves no comment.
  split
  · exact .pure trivial
  · exact tracks_onReconstruction (remarks _)

/-- Sessions with the same preferences both echo a line, or neither does. -/
theorem tracks_echo_if {preferences : Preferences} (remarks : ∀ text, Tracks related Any
      (Reconstruction.onOutline (Outline.write (.comment text)))
      (Reconstruction.onOutline (Outline.write (.comment text)))) (text : String) :
    Tracks (Alike preferences preferences related) Any
      (if preferences.verbose then echo text else pure ())
      (if preferences.verbose then echo text else pure ()) := by
  split
  · exact tracks_echo remarks text
  · exact .pure trivial

/-- A session by direct chaining and one by a tableau refuse a trace for the same reason, or are
closed alike. -/
theorem agrees_runText (preferences : Preferences) (trace : String) :
    Attempt.Agrees (Alike preferences preferences Reconstruction.Paired) Summary.SameCounts
      (runText trace (new .direct preferences none))
      (runText trace (new .tableau preferences none)) := by
  -- Before the first line the sessions are alike, and the two methods go in step.
  refine tracks_runText Reconstruction.inStep_paired rfl
    (tracks_echo_if Reconstruction.tracks_remark) Reconstruction.tracks_finish trace ?_
  exact ⟨⟨rfl, rfl⟩, rfl, rfl, rfl, rfl, Reconstruction.paired_new preferences.label⟩

/-- A closed script has one conclusion. -/
theorem Closed.conclusions {method : Method} {preferences : Preferences} {texts : List String}
    {clauses : List Clause} {session : Session}
    (closed : Closed method preferences texts clauses session) :
    ∃ closing, session.script.statements.filter Statement.isConclusion = [closing] := by
  obtain ⟨premises, body, closing, final, kinds, concludes⟩ := method.finalDraft_eq session.graph
  have deduced (statement : Statement) (other : statement.isDeduction = false) :
      statement.isConclusion = false :=
    (Statement.isDeduction_eq_false_iff.mp other).2
  -- What stands before the last deduction are steps and assumptions.
  have before : body.filter Statement.isConclusion = [] := by
    refine List.filter_eq_nil_iff.mpr fun statement member => ?_
    have kind := kinds statement member
    cases statement <;>
      simp_all [Statement.isStep, Statement.isAssumption, Statement.isConclusion]
  refine ⟨closing, ?_⟩
  -- The conclusion is no remark, and no frame holds one.
  rw [Script.filter_statements _ _ fun _ => rfl, closed.proofLines, final,
    Draft.filter_closedLines _ deduced]
  simp [Draft.body, before, concludes]

end Session

/-- Both methods refuse the same traces, for the same reasons, and otherwise count the same clauses.
Each script has one line that concludes; without it, and without the steps of its method, the same
text is left of both, whatever the label is and whether or not the lines of the trace are echoed. -/
theorem translateTrace_frame (preferences : Preferences) (trace : String) :
    (∃ fault, ∀ method, translateTrace method preferences trace = .error fault) ∨
      ∃ (summary : Method → Summary) (session : Method → Session),
        (∀ method,
          Session.runText trace (.new method preferences none) =
            .ok (summary method) (session method) ∧
          translateTrace method preferences trace =
            .ok ((session method).script.text, summary method) ∧
          ∃ closing, (session method).script.statements.filter Statement.isConclusion =
            [closing]) ∧
        Summary.SameCounts (summary .direct) (summary .tableau) ∧
        (session .direct).script.textWithout Method.direct.adds =
          (session .tableau).script.textWithout Method.tableau.adds := by
  -- The runs of the two methods stop at the same fault, or both return.
  rcases (Session.agrees_runText preferences trace).fault_or_values with
    ⟨fault, left, right, one, other⟩ | ⟨first, second, left, right, one, other, counts, alike⟩
  · refine .inl ⟨fault, fun method => ?_⟩
    cases method with
    | direct => simp [translateTrace, one]
    | tableau => simp [translateTrace, other]
  · refine .inr ⟨fun method => method.rec first second, fun method => method.rec left right,
      fun method => ?_, counts, ?_⟩
    · cases method with
      | direct =>
        exact ⟨one, by simp [translateTrace, one], (Session.closed_of_runText one).1.conclusions⟩
      | tableau =>
        exact ⟨other, by simp [translateTrace, other],
          (Session.closed_of_runText other).1.conclusions⟩
    · -- The lines that are left are the same, one by one.
      have lines := alike.reconstruction.alike.without
      exact congrArg (fun kept => String.join (kept.map Line.text)) lines

end Retrace
