import Retrace.Proofs.Outline.Alike
import Retrace.Proofs.Reconstruction

/-!
Two reconstructions by the same method that agree in all but the lines of their scripts. They stay in
parallel as they take the same clauses, whatever the relation between their lines is, and both add the
same lines.
-/

namespace Retrace

open Attempt (Any Tracks)

/-- The lines of both sides since they had the given ones, which are the same. -/
def LinesRelation.Since (mine yours : List Line) : LinesRelation := fun first second =>
  ∃ added, first = mine ++ added ∧ second = yours ++ added

/-- Since any lines, both sides may get any line. -/
theorem LinesRelation.takes_since (mine yours : List Line) (statement : Statement) :
    (Since mine yours).Takes statement := by
  rintro _ _ column ⟨added, rfl, rfl⟩
  exact ⟨added ++ [⟨column, statement⟩], by simp, by simp⟩

variable {relation : LinesRelation}

/-- Two states of direct chaining that agree in all but the lines of their scripts. -/
structure Chaining.Parallel (relation : LinesRelation) (one other : Chaining) : Prop where
  outline : Outline.Alike relation one.outline other.outline
  steps : one.steps = other.steps

namespace Chaining

variable {α : Type} {values : α → α → Prop}

/-- What keeps the outlines alike keeps the two states in parallel. -/
theorem tracks_onOutline {one other : Attempt Outline α}
    (tracked : Tracks (Outline.Alike relation) values one other) :
    Tracks (Parallel relation) values (onOutline one) (onOutline other) :=
  tracked.onPart (fun _ _ parallel => parallel.outline)
    fun _ _ _ _ parallel outline => { parallel with outline }

variable (takes : ∀ statement, relation.Takes statement)

include takes

/-- Both take the next clause, or refuse it for the same reason. -/
theorem tracks_step (clause : Clause) :
    Tracks (Parallel relation) Any (step clause) (step clause) := by
  have frame : relation.TakesFrame := fun statement _ _ => takes statement
  unfold step
  refine (tracks_onOutline (Outline.tracks_start frame)).andThen ?_
  -- Whether the clause is a root is no matter of the state.
  split
  · exact tracks_onOutline (Outline.tracks_root frame clause)
  · refine (tracks_onOutline (Outline.tracks_ensureRefutation frame)).andThen ?_
    refine (tracks_onOutline (Outline.tracks_write (takes _))).andThen ?_
    -- Both count one step more.
    exact .modify fun _ _ parallel => { parallel with steps := by rw [parallel.steps] }

/-- Both close their scripts. -/
theorem tracks_finish : Tracks (Parallel relation) Eq finish finish := by
  have frame : relation.TakesFrame := fun statement _ _ => takes statement
  unfold finish
  refine (tracks_onOutline (Outline.tracks_ensureRefutation frame)).andThen ?_
  refine Tracks.get.bind fun one other parallel => ?_
  -- They have written equally many steps, so that they conclude in the same way.
  rw [parallel.steps]
  refine (tracks_onOutline (Outline.tracks_write (takes _))).andThen ?_
  exact (tracks_onOutline (Outline.tracks_close frame)).andThen (.pure rfl)

end Chaining

/-- Two tableaux that agree in all but the lines of their scripts. -/
structure Tableau.Parallel (relation : LinesRelation) (one other : Tableau) : Prop where
  outline : Outline.Alike relation one.outline other.outline
  waiting : one.waiting = other.waiting
  core : one.core = other.core
  rules : one.rules = other.rules

namespace Tableau

variable {α : Type} {values : α → α → Prop} {one other : Tableau}

/-- What keeps the outlines alike keeps the two tableaux in parallel. -/
theorem tracks_onOutline {one other : Attempt Outline α}
    (tracked : Tracks (Outline.Alike relation) values one other) :
    Tracks (Parallel relation) values (onOutline one) (onOutline other) :=
  tracked.onPart (fun _ _ parallel => parallel.outline)
    fun _ _ _ _ parallel outline => { parallel with outline }

/-- Both write the same rule. -/
theorem Parallel.rule_eq (parallel : Parallel relation one other) : one.rule = other.rule := by
  simp [rule, parallel.core, parallel.waiting, parallel.rules, parallel.outline.theory]

/-- Both may take the topmost clause. -/
theorem Parallel.take (parallel : Parallel relation one other) (graph : Graph) (top : String)
    (below : List String) : Parallel relation (take graph top below one)
      (take graph top below other) :=
  { outline := parallel.outline
    waiting := rfl
    core := by simp [Tableau.take, parallel.core]
    rules := by simp [Tableau.take, parallel.rules] }

variable (takes : ∀ statement, relation.Takes statement)

include takes

/-- Both take the next clause, or refuse it for the same reason. -/
theorem tracks_step (clause : Clause) :
    Tracks (Parallel relation) Any (step clause) (step clause) := by
  have frame : relation.TakesFrame := fun statement _ _ => takes statement
  unfold step
  refine (tracks_onOutline (Outline.tracks_start frame)).andThen ?_
  split
  · exact tracks_onOutline (Outline.tracks_root frame clause)
  · -- A derived clause waits on both sides and is abbreviated in the same line.
    refine (tracks_onOutline (Outline.tracks_ensureRefutation frame)).andThen ?_
    refine (Tracks.modify fun _ _ parallel => { parallel with
      waiting := by rw [parallel.waiting] }).andThen ?_
    exact tracks_onOutline (Outline.tracks_write (takes _))

/-- Both take the same clauses down, and their cores grow alike. -/
theorem tracks_drain (graph : Graph) (waiting : List String) :
    Tracks (Parallel relation) Eq (drain graph waiting) (drain graph waiting) := by
  -- Each clause changes both tableaux in the same way and gives both the same rule.
  induction waiting with
  | nil => exact .pure rfl
  | cons top below ih =>
    rw [drain]
    refine (Tracks.modify fun _ _ parallel => parallel.take graph top below).andThen ?_
    refine Tracks.get.bind fun one other parallel => ?_
    rw [parallel.rule_eq, parallel.core]
    refine (tracks_onOutline (Outline.tracks_write (takes _))).andThen ?_
    exact ih.bind fun sizes _ same => .pure (by rw [same])

/-- Both close their scripts, with the same rules and the same core. -/
theorem tracks_finish (graph : Graph) :
    Tracks (Parallel relation) Eq (finish graph) (finish graph) := by
  have frame : relation.TakesFrame := fun statement _ _ => takes statement
  have closes := tracks_onOutline (Outline.tracks_close frame)
  unfold finish
  refine (tracks_onOutline (Outline.tracks_ensureRefutation frame)).andThen ?_
  refine Tracks.get.bind fun one other parallel => ?_
  rw [parallel.waiting]
  simp only
  -- With nothing waiting, falsity is found at once.
  split
  · refine (tracks_onOutline (Outline.tracks_write (takes _))).andThen ?_
    exact closes.andThen (.pure rfl)
  · refine (tracks_drain takes graph _).bind fun sizes _ same => ?_
    obtain rfl := same
    refine Tracks.get.bind fun one other parallel => ?_
    simp only [parallel.core, parallel.rules]
    refine (tracks_onOutline (Outline.tracks_write (takes _))).andThen ?_
    exact closes.andThen (.pure rfl)

end Tableau

namespace Reconstruction

/-- Two reconstructions by one method that agree in all but the lines of their scripts. -/
inductive Parallel (relation : LinesRelation) : Reconstruction → Reconstruction → Prop
  | chaining {one other : Chaining} (states : Chaining.Parallel relation one other) :
      Parallel relation (.chaining one) (.chaining other)
  | tableau {one other : Tableau} (states : Tableau.Parallel relation one other) :
      Parallel relation (.tableau one) (.tableau other)

/-- Before its first clause a reconstruction is in parallel with itself if no lines are related to
none. -/
theorem parallel_new (method : Method) (label : Option String) (related : relation [] []) :
    Parallel relation (new method label none) (new method label none) := by
  have outline := Outline.alike_blank label related
  cases method with
  | direct => exact .chaining ⟨outline, rfl⟩
  | tableau => exact .tableau ⟨outline, rfl, rfl, rfl⟩

namespace Parallel

variable {one other : Reconstruction}

/-- Reconstructions in parallel have outlines that are alike. -/
theorem alike (parallel : Parallel relation one other) :
    Outline.Alike relation one.outline other.outline := by
  rcases parallel with ⟨states⟩ | ⟨states⟩ <;> exact states.outline

/-- Reconstructions in parallel are by the same method. -/
theorem method_eq (parallel : Parallel relation one other) : one.method = other.method := by
  rcases parallel with ⟨states⟩ | ⟨states⟩ <;> rfl

/-- How the lines are related may be told anew. -/
theorem retold {after : LinesRelation} (parallel : Parallel relation one other)
    (related : after one.script.lines.toList other.script.lines.toList) :
    Parallel after one other := by
  rcases parallel with ⟨states⟩ | ⟨states⟩
  · exact .chaining { states with outline := { states.outline with lines := related } }
  · exact .tableau { states with outline := { states.outline with lines := related } }

/-- The other may write a line alone if that leaves the lines related. -/
theorem write_right (after : LinesRelation) (parallel : Parallel relation one other)
    (statement : Statement) (related : after one.script.lines.toList
      (other.script.lines.toList ++ [⟨one.script.column, statement⟩])) :
    ∃ written, onOutline (Outline.write statement) other = .ok () written ∧
      Parallel after one written := by
  have column := parallel.alike.column
  have unlimited := parallel.alike.unlimited.2
  -- Both stand at the same column.
  rw [script, column] at related
  have pushed := parallel.alike.push_right related
  -- The line is all that changes.
  rcases parallel with @⟨one, other, states⟩ | @⟨one, other, states⟩
  · have written : Chaining.onOutline (Outline.write statement) other =
        .ok () { other with outline := other.outline.push statement } :=
      Attempt.onPart_ok (Outline.write_ok unlimited statement)
    refine ⟨.chaining { other with outline := other.outline.push statement }, ?_,
      .chaining { states with outline := pushed }⟩
    simp only [onOutline, Attempt.embed, written]
  · have written : Tableau.onOutline (Outline.write statement) other =
        .ok () { other with outline := other.outline.push statement } :=
      Attempt.onPart_ok (Outline.write_ok unlimited statement)
    refine ⟨.tableau { other with outline := other.outline.push statement }, ?_,
      .tableau { states with outline := pushed }⟩
    simp only [onOutline, Attempt.embed, written]

end Parallel

variable (takes : ∀ statement, relation.Takes statement)

include takes

/-- Reconstructions in parallel take the next clause, or refuse it for the same reason. -/
theorem tracks_step_parallel (clause : Clause) :
    Tracks (Parallel relation) Any (step clause) (step clause) := by
  rintro _ _ (⟨states⟩ | ⟨states⟩)
  · exact (Chaining.tracks_step takes clause states).embed fun _ _ => .chaining
  · exact (Tableau.tracks_step takes clause states).embed fun _ _ => .tableau

/-- Reconstructions in parallel both write a statement. -/
theorem tracks_write_parallel (statement : Statement) :
    Tracks (Parallel relation) Any (onOutline (Outline.write statement))
      (onOutline (Outline.write statement)) := by
  have written := Outline.tracks_write (takes statement)
  rintro _ _ (⟨states⟩ | ⟨states⟩)
  · exact (Chaining.tracks_onOutline written states).embed fun _ _ => .chaining
  · exact (Tableau.tracks_onOutline written states).embed fun _ _ => .tableau

/-- Reconstructions in parallel both close their scripts, with the same rules and the same core. -/
theorem tracks_finish_parallel (graph : Graph) :
    Tracks (Parallel relation) Eq (finish graph) (finish graph) := by
  rintro _ _ (⟨states⟩ | ⟨states⟩)
  · exact (Chaining.tracks_finish takes states).embed fun _ _ => .chaining
  · exact (Tableau.tracks_finish takes graph states).embed fun _ _ => .tableau

omit takes

/-- A reconstruction that follows clauses is in parallel with itself. -/
theorem Follows.parallel {method : Method} {label : Option String} {remarks : List Statement}
    {clauses : List Clause} {reconstruction : Reconstruction}
    (follows : Follows method label remarks clauses reconstruction)
    (related : relation reconstruction.script.lines.toList reconstruction.script.lines.toList) :
    Parallel relation reconstruction reconstruction := by
  have shown := follows.shows
  have outline : Outline.Alike relation reconstruction.outline reconstruction.outline :=
    ⟨rfl, rfl, rfl, rfl, rfl, rfl, ⟨shown.unlimited, shown.unlimited⟩, ⟨shown.whole, shown.whole⟩,
      related⟩
  -- Either method has nothing but its outline that may differ.
  cases reconstruction with
  | chaining state => exact .chaining ⟨outline, rfl⟩
  | tableau state => exact .tableau ⟨outline, rfl, rfl, rfl⟩

/-- Closing a script takes none of its lines back and adds others behind them. -/
theorem Follows.finish_adds {method : Method} {label : Option String} {remarks : List Statement}
    {clauses : List Clause} {reconstruction after : Reconstruction} {graph : Graph}
    {closing : Closing} (follows : Follows method label remarks clauses reconstruction)
    (finished : Reconstruction.finish graph reconstruction = .ok closing after) :
    ∃ added, after.script.lines.toList = reconstruction.script.lines.toList ++ added := by
  let before := reconstruction.script.lines.toList
  -- The reconstruction is compared with itself, since it had the lines that it has now.
  have parallel : Parallel (.Since before before) reconstruction reconstruction :=
    follows.parallel ⟨[], by simp [before], by simp [before]⟩
  have agreed := tracks_finish_parallel (LinesRelation.takes_since before before) graph parallel
  rw [finished] at agreed
  cases agreed with
  | returned _ related =>
    obtain ⟨added, grown, -⟩ := related.alike.lines
    exact ⟨added, grown⟩

end Reconstruction

end Retrace
