import Retrace.Proofs.Script.Room
import Retrace.Reconstruction

/-!
Reconstructions with limited room: every action on an outline, and with them every step of either
method, is curtailed where the room ends and is the same before.
-/

namespace Retrace

open Attempt (Curtailed IsPart)

instance : KeepsScript Outline where
  script := Outline.script
  exchange script outline := { outline with script }

instance : KeepsScript Chaining where
  script chaining := chaining.outline.script
  exchange script chaining := { chaining with outline := { chaining.outline with script } }

instance : KeepsScript Tableau where
  script tableau := tableau.outline.script
  exchange script tableau := { tableau with outline := { tableau.outline with script } }

instance : KeepsScript Reconstruction where
  script := Reconstruction.script
  exchange
    | script, .chaining state => .chaining (KeepsScript.exchange script state)
    | script, .tableau state => .tableau (KeepsScript.exchange script state)

namespace Outline

/-- Writing a statement is curtailed. -/
theorem curtailed_write (statement : Statement) : Curtailed (write statement) :=
  (Curtailed.write statement).onPart ⟨fun _ => rfl, fun _ _ => rfl, fun _ _ _ => rfl, fun _ _ => rfl,
    fun _ _ _ => rfl⟩

/-- Moving to the right writes nothing. -/
theorem curtailed_indent : Curtailed indent :=
  .modify (fun _ => rfl) fun _ _ => rfl

/-- Moving to the left writes nothing. -/
theorem curtailed_dedent : Curtailed dedent :=
  .modify (fun _ => rfl) fun _ _ => rfl

/-- Opening a block is curtailed in its first line. -/
theorem curtailed_openBlock (statement : Statement) : Curtailed (openBlock statement) :=
  (curtailed_write statement).andThen
    (curtailed_indent.andThen (.modify (fun _ => rfl) fun _ _ => rfl))

/-- Counting a name among the theory writes nothing. -/
theorem curtailed_addTheory (name : String) : Curtailed (modify (addTheory name)) := by
  -- Only the names of the theory are looked at, and only they can change.
  have changes : addTheory name = fun outline => { outline with
      theory := if outline.theory.contains name then outline.theory else outline.theory ++ [name] } := by
    funext outline
    unfold addTheory
    split <;> rfl
  rw [changes]
  exact .modify (fun _ => rfl) fun _ _ => rfl

/-- The header is written unless it has been begun; that it has is noted first. -/
theorem start_eq : start = (do
    let outline ← get
    if outline.started then pure () else do
      modify fun outline => { outline with started := true }
      write (.header outline.label)
      indent) := by
  funext outline
  cases begun : outline.started <;> simp [start, begun]

/-- Starting is curtailed in the header. -/
theorem curtailed_start : Curtailed start := by
  rw [start_eq]
  refine .get_bind (fun _ _ => rfl) fun outline => ?_
  split
  · exact .pure ()
  · refine .andThen (.modify (fun _ => rfl) fun _ _ => rfl) ?_
    exact (curtailed_write _).andThen curtailed_indent

/-- Taking a root is curtailed in one of its lines. -/
theorem curtailed_root (clause : Clause) : Curtailed (root clause) := by
  unfold root
  cases clause.role with
  | standing | definition =>
    refine .get_bind (fun _ _ => rfl) fun outline => ?_
    simp only
    split
    · exact (curtailed_write _).andThen (curtailed_addTheory _)
    · exact (curtailed_write _).andThen (curtailed_addTheory _)
  | conjecture =>
    refine .get_bind (fun _ _ => rfl) fun outline => ?_
    -- A second conjecture is refused, and the first one is stated or only denied.
    cases outline.conjecture with
    | some first => exact .throw_bind _ _
    | none =>
      refine .andThen (.modify (fun _ => rfl) fun _ _ => rfl) ?_
      refine .get_bind (fun _ _ => rfl) fun outline => ?_
      split
      · -- The lemma is stated and its two blocks are begun, line by line.
        refine (curtailed_write _).andThen (curtailed_dedent.andThen ?_)
        refine (curtailed_openBlock _).andThen ((curtailed_write _).andThen ?_)
        exact (curtailed_write _).andThen (curtailed_openBlock _)
      · exact curtailed_write _
  | derived role => exact .throw _

/-- Making sure that a block is open is curtailed. -/
theorem curtailed_ensureRefutation : Curtailed ensureRefutation := by
  unfold ensureRefutation
  refine curtailed_start.andThen (.get_bind (fun _ _ => rfl) fun outline => ?_)
  split
  · exact (curtailed_write _).andThen (curtailed_dedent.andThen (curtailed_openBlock _))
  · exact .pure ()

/-- Closing blocks is curtailed in the end of one of them. -/
theorem curtailed_closeBlocks (count : Nat) : Curtailed (closeBlocks count) := by
  induction count with
  | zero => exact .pure ()
  | succ count ih =>
    rw [closeBlocks]
    refine curtailed_dedent.andThen ((curtailed_write _).andThen ?_)
    exact .andThen (.modify (fun _ => rfl) fun _ _ => rfl) ih

/-- Closing all open blocks is curtailed. -/
theorem curtailed_close : Curtailed close :=
  .get_bind (fun _ _ => rfl) fun outline => curtailed_closeBlocks outline.openBlocks

end Outline

namespace Chaining

/-- What is curtailed on an outline is so on the state of direct chaining. -/
theorem curtailed_onOutline {α : Type} {attempt : Attempt Outline α} (curtailed : Curtailed attempt) :
    Curtailed (onOutline attempt) :=
  curtailed.onPart ⟨fun _ => rfl, fun _ _ => rfl, fun _ _ _ => rfl, fun _ _ => rfl, fun _ _ _ => rfl⟩

/-- Taking a clause is curtailed. -/
theorem curtailed_step (clause : Clause) : Curtailed (step clause) := by
  unfold step
  refine (curtailed_onOutline Outline.curtailed_start).andThen ?_
  split
  · exact curtailed_onOutline (Outline.curtailed_root clause)
  · refine (curtailed_onOutline Outline.curtailed_ensureRefutation).andThen ?_
    refine (curtailed_onOutline (Outline.curtailed_write _)).andThen ?_
    exact .modify (fun _ => rfl) fun _ _ => rfl

/-- Closing the script is curtailed. -/
theorem curtailed_finish : Curtailed finish := by
  unfold finish
  refine (curtailed_onOutline Outline.curtailed_ensureRefutation).andThen ?_
  refine .get_bind (fun _ _ => rfl) fun chaining => ?_
  refine (curtailed_onOutline (Outline.curtailed_write _)).andThen ?_
  exact (curtailed_onOutline Outline.curtailed_close).andThen (.pure _)

end Chaining

namespace Tableau

/-- What is curtailed on an outline is so on a tableau. -/
theorem curtailed_onOutline {α : Type} {attempt : Attempt Outline α} (curtailed : Curtailed attempt) :
    Curtailed (onOutline attempt) :=
  curtailed.onPart ⟨fun _ => rfl, fun _ _ => rfl, fun _ _ _ => rfl, fun _ _ => rfl, fun _ _ _ => rfl⟩

/-- Taking a clause is curtailed. -/
theorem curtailed_step (clause : Clause) : Curtailed (step clause) := by
  unfold step
  refine (curtailed_onOutline Outline.curtailed_start).andThen ?_
  split
  · exact curtailed_onOutline (Outline.curtailed_root clause)
  · refine (curtailed_onOutline Outline.curtailed_ensureRefutation).andThen ?_
    refine .andThen (.modify (fun _ => rfl) fun _ _ => rfl) ?_
    exact curtailed_onOutline (Outline.curtailed_write _)

/-- Draining the stack is curtailed in one of the rules. -/
theorem curtailed_drain (graph : Graph) (waiting : List String) :
    Curtailed (drain graph waiting) := by
  induction waiting with
  | nil => exact .pure []
  | cons top below ih =>
    rw [drain]
    -- Taking a clause changes no line, and what is looked up afterwards is not about lines either.
    refine .andThen (.modify (fun _ => rfl) fun _ _ => rfl) ?_
    refine .get_bind (fun _ _ => rfl) fun tableau => ?_
    refine (curtailed_onOutline (Outline.curtailed_write _)).andThen ?_
    exact ih.bind fun sizes => .pure _

/-- Closing the script is curtailed. -/
theorem curtailed_finish (graph : Graph) : Curtailed (finish graph) := by
  have closes := curtailed_onOutline Outline.curtailed_close
  unfold finish
  refine (curtailed_onOutline Outline.curtailed_ensureRefutation).andThen ?_
  refine .get_bind (fun _ _ => rfl) fun tableau => ?_
  simp only
  -- Either there is only the conclusion to write, or the rules come first.
  split
  · exact (curtailed_onOutline (Outline.curtailed_write _)).andThen (closes.andThen (.pure _))
  · refine (curtailed_drain graph _).bind fun sizes => ?_
    refine .get_bind (fun _ _ => rfl) fun tableau => ?_
    exact (curtailed_onOutline (Outline.curtailed_write _)).andThen (closes.andThen (.pure _))

end Tableau

namespace Reconstruction

/-- What either method does on its state is curtailed if both are. -/
theorem curtailed_of_methods {α : Type} {attempt : Attempt Reconstruction α}
    {one : Attempt Chaining α} {other : Attempt Tableau α}
    (acts : ∀ state, attempt (.chaining state) = Attempt.embed chaining one state)
    (does : ∀ state, attempt (.tableau state) = Attempt.embed tableau other state)
    (first : Curtailed one) (second : Curtailed other) : Curtailed attempt
  | .chaining state, unlimited =>
    (first state unlimited).embed acts (fun _ => rfl) fun _ _ => rfl
  | .tableau state, unlimited =>
    (second state unlimited).embed does (fun _ => rfl) fun _ _ => rfl

/-- What is curtailed on an outline is so on a reconstruction. -/
theorem curtailed_onOutline {α : Type} {attempt : Attempt Outline α} (curtailed : Curtailed attempt) :
    Curtailed (onOutline attempt) :=
  curtailed_of_methods (fun _ => rfl) (fun _ => rfl) (Chaining.curtailed_onOutline curtailed)
    (Tableau.curtailed_onOutline curtailed)

/-- Taking a clause is curtailed. -/
theorem curtailed_step (clause : Clause) : Curtailed (step clause) :=
  curtailed_of_methods (fun _ => rfl) (fun _ => rfl) (Chaining.curtailed_step clause)
    (Tableau.curtailed_step clause)

/-- Closing the script is curtailed. -/
theorem curtailed_finish (graph : Graph) : Curtailed (finish graph) :=
  curtailed_of_methods (fun _ => rfl) (fun _ => rfl) Chaining.curtailed_finish
    (Tableau.curtailed_finish graph)

end Reconstruction

end Retrace
