import Retrace.Proofs.Reconstruction.Room
import Retrace.Session

/-!
Sessions with limited room: a session that runs out of room has written the beginning of what it
writes without a limit, and one that does not run out of it ends in the same way.
-/

namespace Retrace

open Attempt (Curtailed)

instance : KeepsScript Session where
  script := Session.script
  exchange script session :=
    { session with reconstruction := KeepsScript.exchange script session.reconstruction }

/-- What an attempt returns or stops with, without the state that it leaves. -/
def Attempt.answer {σ α : Type} (attempt : Attempt σ α) (state : σ) : Except Fault α :=
  match attempt state with
  | .ok value _ => .ok value
  | .error fault _ => .error fault

/-- An attempt that acts on a part as another one does has the same answer. -/
theorem Attempt.answer_of_embed {σ τ α : Type} {one : Attempt τ α} {attempt : Attempt σ α}
    {put : τ → σ} {part : τ} (acts : attempt (put part) = Attempt.embed put one part) :
    attempt.answer (put part) = one.answer part := by
  simp only [answer, acts, embed]
  cases one part <;> rfl

namespace Reconstruction

/-- Room does not change the method. -/
theorem method_within (capacity : Nat) (reconstruction : Reconstruction) :
    (KeepsScript.within capacity reconstruction).method = reconstruction.method := by
  cases reconstruction <;> rfl

/-- Room is that of the script. -/
theorem script_within (capacity : Nat) (reconstruction : Reconstruction) :
    (KeepsScript.within capacity reconstruction).script =
      reconstruction.script.within capacity := by
  cases reconstruction <;> rfl

/-- Room does not change what makes a conjecture late. -/
theorem isLateConjecture_within (capacity : Nat) (reconstruction : Reconstruction) :
    (KeepsScript.within capacity reconstruction).outline.isLateConjecture =
      reconstruction.outline.isLateConjecture := by
  cases reconstruction <;> rfl

end Reconstruction

namespace Session

/-- Room is that of the script. -/
theorem script_within (capacity : Nat) (session : Session) :
    (KeepsScript.within capacity session).script = session.script.within capacity :=
  Reconstruction.script_within capacity session.reconstruction

/-- What is curtailed on a reconstruction is so on a session. -/
theorem curtailed_onReconstruction {α : Type} {attempt : Attempt Reconstruction α}
    (curtailed : Curtailed attempt) : Curtailed (onReconstruction attempt) :=
  curtailed.onPart ⟨fun _ => rfl, fun _ _ => rfl, fun _ _ _ => rfl, fun _ _ => rfl, fun _ _ _ => rfl⟩

/-- Making a note writes nothing. -/
theorem curtailed_note (remark : Note) : Curtailed (note remark) :=
  .modify (fun _ => rfl) fun _ _ => rfl

/-- Counting a clause writes nothing. -/
theorem curtailed_count (clause : Clause) : Curtailed (modify (count clause)) := by
  -- Which number is raised depends on the clause and not on the session.
  have changes : count clause = if clause.isRoot then
      fun session => { session with roots := session.roots + 1 }
      else fun session => { session with derived := session.derived + 1 } := by
    funext session
    unfold count
    split <;> rfl
  rw [changes]
  split <;> exact .modify (fun _ => rfl) fun _ _ => rfl

/-- Echoing a line is curtailed in its comment. -/
theorem curtailed_echo (text : String) : Curtailed (echo text) := by
  unfold echo
  simp only
  split
  · exact .pure ()
  · exact curtailed_onReconstruction (Reconstruction.curtailed_onOutline (Outline.curtailed_write _))

/-- Taking a clause is curtailed in what the reconstruction writes for it. -/
theorem curtailed_take (clause : Clause) : Curtailed (take clause) := by
  -- Neither the notes nor the graph depend on the room.
  unfold take
  refine .when (curtailed_note _) (.get_bind (fun _ _ => rfl) fun session => ?_)
  refine .when (curtailed_note _) ((curtailed_count clause).andThen ?_)
  refine .get_bind (fun _ _ => rfl) fun session => (Curtailed.ofExcept _).bind fun graph => ?_
  refine .andThen (.modify (fun _ => rfl) fun _ _ => rfl) ?_
  refine .get_bind (fun capacity session => ?_) fun session => ?_
  · exact congrArg (fun late => if late clause = true then _ else _)
      (Reconstruction.isLateConjecture_within capacity session.reconstruction)
  · exact .when (curtailed_note _)
      (curtailed_onReconstruction (Reconstruction.curtailed_step clause))

/-- Taking a line of the trace is curtailed in its echo or in what is written for its clause. -/
theorem curtailed_feedLine (number : Nat) (text : String) : Curtailed (feedLine number text) := by
  unfold feedLine
  refine .get_bind (fun _ _ => rfl) fun session => .when (curtailed_echo text) ?_
  refine (Curtailed.ofExcept _).bind fun held => ?_
  cases held with
  | none => exact .pure ()
  | some entry => exact (Curtailed.ofExcept _).bind fun clause => curtailed_take clause

/-- Taking lines of bytes is curtailed in one of them. -/
theorem curtailed_feedBytes (number : Nat) (lines : List (List UInt8)) :
    Curtailed (feedBytes number lines) := by
  induction lines generalizing number with
  | nil => exact .pure ()
  | cons bytes others ih =>
    rw [feedBytes]
    cases String.fromUTF8? ⟨bytes.toArray⟩ with
    | none => exact .throw_bind _ _
    | some text => exact (curtailed_feedLine number text).andThen (ih _)

/-- Closing the script is curtailed in its last lines. The figures are those without a limit. -/
theorem curtailed_finish : Curtailed finish := by
  unfold finish
  refine .get_bind (fun _ _ => rfl) fun session => ?_
  refine (curtailed_onReconstruction (Reconstruction.curtailed_finish _)).bind fun closing => ?_
  refine .get_bind (fun capacity session => ?_) fun session => .pure _
  -- The figures that are read off the reconstruction do not depend on the room.
  have method : (KeepsScript.within capacity session).reconstruction.method =
      session.reconstruction.method :=
    Reconstruction.method_within capacity session.reconstruction
  simp only [method, script_within]
  rfl

/-- A session over a whole trace is curtailed. -/
theorem curtailed_runBytes (content : List UInt8) : Curtailed (runBytes content) :=
  (curtailed_feedBytes _ _).andThen curtailed_finish

/-- A session with limited room begins like one without a limit. -/
theorem new_within (method : Method) (preferences : Preferences) (capacity : Nat) :
    new method preferences (some capacity) =
      KeepsScript.within capacity (new method preferences none) := by
  cases method <;> rfl

end Session

/-- Translating the contents of a file is curtailed. -/
theorem Command.curtailed_runContents (contents : Contents) : Curtailed (runContents contents) := by
  cases contents with
  | error complaint => exact .throw _
  | ok bytes => exact Session.curtailed_runBytes bytes

/-- With limited room, what is written is as much of the whole output as there is room for. If there
is room for all of it, the answer is the same, be it figures or a fault, and otherwise it is the fault
that there is no more room. -/
theorem runContents_curtailed (method : Method) (preferences : Preferences) (contents : Contents)
    (capacity : Nat) :
    let attempt := Command.runContents contents
    let unlimited := Session.new method preferences none
    let limited := Session.new method preferences (some capacity)
    let output := (attempt.left unlimited).script.bytes
    (attempt.left limited).script.bytes = output.take capacity ∧
      attempt.answer limited =
        if output.length ≤ capacity then attempt.answer unlimited else .error Script.full := by
  intro attempt unlimited limited output
  have start : limited = KeepsScript.within capacity unlimited :=
    Session.new_within method preferences capacity
  have clear : unlimited.script.Unlimited := by cases method <;> exact ⟨rfl, rfl⟩
  have nothing : unlimited.script.bytes = [] := by cases method <;> rfl
  -- The whole run is curtailed, so it is only asked whether all of its output fits.
  have curtailed := Command.curtailed_runContents contents unlimited clear
  rw [start]
  by_cases room : output.length ≤ capacity
  · have ended := curtailed.fits room
    rw [if_pos room, List.take_of_length_le room]
    refine ⟨?_, Attempt.answer_of_embed ended⟩
    rw [Attempt.left_of_embed ended, Session.script_within]
    rfl
  · -- The output starts from nothing, so the room is exceeded at some point of the run.
    have begins : unlimited.script.bytes.length ≤ capacity := by simp [nothing]
    obtain ⟨stopped, ended, bytes⟩ := curtailed.overruns begins (Nat.lt_of_not_le room)
    rw [if_neg room]
    simp only [Attempt.left, Attempt.answer, attempt, ended]
    exact ⟨bytes, trivial⟩

end Retrace
