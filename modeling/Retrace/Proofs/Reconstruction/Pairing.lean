import Retrace.Proofs.Outline.Alike
import Retrace.Reconstruction

/-!
The two methods side by side. Whatever clauses they take, their outlines differ only in the lines
that either method adds: both write the same frame, at the same columns.
-/

namespace Retrace

open Attempt (Any Tracks)

/-- The statements that a method adds to the outline: its steps, and the line that closes the proof. -/
def Method.adds : Method → Statement → Bool
  -- A step of direct chaining is one inference.
  | .direct, .inference .. => true
  | .direct, .conclusion _ => true
  -- A tableau has abbreviations and rules, and closes its proof by the last rule if there is one.
  | .tableau, .abbreviation .. => true
  | .tableau, .rule .. => true
  | .tableau, .conclusion _ => true
  | .tableau, .ruleConclusion .. => true
  | _, _ => false

/-- A method adds nothing but deductions. -/
theorem Method.adds_eq_false (method : Method) {statement : Statement}
    (frame : statement.isDeduction = false) : method.adds statement = false := by
  -- Steps and conclusions are the only statements that either method adds.
  cases method <;> cases statement <;>
    simp_all [adds, Statement.isDeduction, Statement.isStep, Statement.isConclusion]

/-- Neither method adds a statement of the frame. -/
theorem Method.takesFrame (method twin : Method) :
    (LinesRelation.Without method.adds twin.adds).TakesFrame := by
  intro statement frame _
  refine LinesRelation.takes_without ?_
  rw [adds_eq_false method frame, adds_eq_false twin frame]

/-- Direct chaining and a tableau whose outlines differ only in what each method adds. -/
def Paired (chaining : Chaining) (tableau : Tableau) : Prop :=
  Outline.Alike (.Without Method.direct.adds Method.tableau.adds) chaining.outline tableau.outline

namespace Paired

variable {α β : Type} {values : α → β → Prop}

/-- What keeps the outlines alike keeps the two states paired. -/
theorem tracks_onOutline {one : Attempt Outline α} {other : Attempt Outline β}
    (tracked : Tracks (Outline.Alike (.Without Method.direct.adds Method.tableau.adds)) values one other) :
    Tracks Paired values (Chaining.onOutline one) (Tableau.onOutline other) :=
  tracked.onPart (fun _ _ paired => paired) fun _ _ _ _ _ alike => alike

/-- Direct chaining may write a line that it adds, while the tableau does nothing. -/
theorem tracks_write_chaining {statement : Statement}
    (added : Method.direct.adds statement = true) :
    Tracks Paired Any (Chaining.onOutline (Outline.write statement)) (pure ()) :=
  tracks_onOutline (Outline.tracks_write_left added)

/-- A tableau may write a line that it adds, while direct chaining does nothing. -/
theorem tracks_write_tableau {statement : Statement}
    (added : Method.tableau.adds statement = true) :
    Tracks Paired Any (pure ()) (Tableau.onOutline (Outline.write statement)) :=
  tracks_onOutline (Outline.tracks_write_right added)

/-- What direct chaining counts is not seen in its outline. -/
theorem tracks_modify_chaining {change : Chaining → Chaining}
    (kept : ∀ chaining, (change chaining).outline = chaining.outline) :
    Tracks Paired Any (modify change) (pure ()) := by
  intro chaining tableau paired
  refine .returned trivial ?_
  rw [Paired, kept]
  exact paired

/-- What a tableau has waiting, in its core or counted is not seen in its outline. -/
theorem tracks_modify_tableau {change : Tableau → Tableau}
    (kept : ∀ tableau, (change tableau).outline = tableau.outline) :
    Tracks Paired Any (pure ()) (modify change) := by
  intro chaining tableau paired
  refine .returned trivial ?_
  rw [Paired, kept]
  exact paired

/-- Direct chaining may look at its own state. -/
theorem tracks_get_chaining : Tracks Paired Any get (pure ()) :=
  fun _ _ paired => .returned trivial paired

/-- A tableau may look at its own state. -/
theorem tracks_get_tableau : Tracks Paired Any (pure ()) get :=
  fun _ _ paired => .returned trivial paired

/-- Both methods take the next clause, or refuse it for the same reason. -/
theorem tracks_step (clause : Clause) :
    Tracks Paired Any (Chaining.step clause) (Tableau.step clause) := by
  have frame := Method.takesFrame .direct .tableau
  unfold Chaining.step Tableau.step
  refine (tracks_onOutline (Outline.tracks_start frame)).andThen ?_
  split
  · exact tracks_onOutline (Outline.tracks_root frame clause)
  · refine (tracks_onOutline (Outline.tracks_ensureRefutation frame)).andThen ?_
    -- Each method writes a line of its own, and notes it before or behind.
    refine (tracks_write_chaining rfl).bind_left fun _ => ?_
    refine .bind_right (tracks_modify_tableau fun _ => rfl) fun _ => ?_
    rw [← bind_pure (modify _)]
    exact .bind_left (tracks_modify_chaining fun _ => rfl) fun _ => tracks_write_tableau rfl

/-- While a tableau is drained nothing is written but rules, which it adds. -/
theorem tracks_drain (graph : Graph) (waiting : List String) :
    Tracks Paired Any (pure ()) (Tableau.drain graph waiting) := by
  -- Each clause taken changes the tableau behind its outline and writes one rule.
  induction waiting with
  | nil => exact .pure trivial
  | cons top below ih =>
    rw [Tableau.drain]
    refine .bind_right (tracks_modify_tableau fun _ => rfl) fun _ => ?_
    refine tracks_get_tableau.bind_right fun tableau => ?_
    refine (tracks_write_tableau rfl).bind_right fun _ => ?_
    exact ih.bind_right fun _ => .pure trivial

/-- Both methods close their scripts, each with a conclusion of its own. -/
theorem tracks_finish (graph : Graph) :
    Tracks Paired Any Chaining.finish (Tableau.finish graph) := by
  have frame := Method.takesFrame .direct .tableau
  unfold Chaining.finish Tableau.finish
  refine (tracks_onOutline (Outline.tracks_ensureRefutation frame)).andThen ?_
  refine tracks_get_chaining.bind_left fun chaining => ?_
  refine (tracks_write_chaining rfl).bind_left fun _ => ?_
  refine tracks_get_tableau.bind_right fun tableau => ?_
  -- Behind the conclusion there are only blocks to close.
  have closed := tracks_onOutline (Outline.tracks_close frame)
  simp only
  split
  · refine (tracks_write_tableau rfl).bind_right fun _ => ?_
    exact closed.andThen (.pure trivial)
  · refine (tracks_drain graph _).bind_right fun _ => ?_
    refine tracks_get_tableau.bind_right fun _ => ?_
    refine (tracks_write_tableau rfl).bind_right fun _ => ?_
    exact closed.andThen (.pure trivial)

end Paired

/-- Reconstructions by either method whose states are paired. -/
inductive Reconstruction.Paired : Reconstruction → Reconstruction → Prop
  | states {chaining : Chaining} {tableau : Tableau} (paired : Retrace.Paired chaining tableau) :
      Paired (.chaining chaining) (.tableau tableau)

namespace Reconstruction

/-- Reconstructions are paired before their first clause. -/
theorem paired_new (label : Option String) :
    Paired (new .direct label none) (new .tableau label none) :=
  .states (Outline.alike_blank label rfl)

/-- The outlines of paired reconstructions differ only in what each method adds. -/
theorem Paired.alike {one other : Reconstruction} (paired : Paired one other) :
    Outline.Alike (.Without Method.direct.adds Method.tableau.adds) one.outline other.outline := by
  obtain ⟨alike⟩ := paired
  exact alike

/-- Paired reconstructions take the next clause, or refuse it for the same reason. -/
theorem tracks_step (clause : Clause) : Tracks Paired Any (step clause) (step clause) := by
  rintro _ _ ⟨paired⟩
  exact (Retrace.Paired.tracks_step clause paired).embed fun _ _ => .states

/-- Paired reconstructions both write a remark. -/
theorem tracks_remark (text : String) :
    Tracks Paired Any (onOutline (Outline.write (.comment text)))
      (onOutline (Outline.write (.comment text))) := by
  rintro _ _ ⟨paired⟩
  -- No method adds remarks of its own.
  have remark : (LinesRelation.Without Method.direct.adds Method.tableau.adds).Takes
    (.comment text) := LinesRelation.takes_without rfl
  have written := Retrace.Paired.tracks_onOutline (Outline.tracks_write remark)
  exact (written paired).embed fun _ _ => .states

/-- Paired reconstructions both close their scripts. -/
theorem tracks_finish (graph : Graph) : Tracks Paired Any (finish graph) (finish graph) := by
  rintro _ _ ⟨paired⟩
  exact (Retrace.Paired.tracks_finish graph paired).embed fun _ _ => .states

end Reconstruction

end Retrace
