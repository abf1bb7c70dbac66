import Mathlib.Data.List.Induction
import Retrace.Proofs.Session

/-!
Runs of a session over several lines: runs that go on past lines that were refused, and runs that
stop at the first of them.
-/

namespace Retrace

/-- The clauses on the lines of a trace, the first of which has the given number. -/
def Clause.onLines (number : Nat) : List String → List Clause
  | [] => []
  | text :: texts => (onLine? number text).toList ++ onLines (number + 1) texts

/-- A clause on lines of a trace stands on one of them. -/
theorem Clause.exists_onLine?_of_mem_onLines {number : Nat} {texts : List String} {clause : Clause}
    (member : clause ∈ onLines number texts) :
    ∃ index, ∃ text ∈ texts, onLine? index text = some clause := by
  induction texts generalizing number with
  | nil => cases member
  | cons text texts ih =>
    rcases List.mem_append.mp member with found | later
    · exact ⟨number, text, List.mem_cons_self, Option.mem_toList.mp found⟩
    · obtain ⟨index, other, among, found⟩ := ih later
      exact ⟨index, other, List.mem_cons_of_mem _ among, found⟩

/-- Clauses none of which is refused behind those before it. -/
def Clause.Suited (clauses : List Clause) : Prop :=
  ∀ before clause after, clauses = before ++ clause :: after → clause.refusal? before = none

/-- No clause among none is refused. -/
theorem Clause.Suited.nil : Suited [] := by
  intro before clause after split
  simp at split

/-- A clause that is not refused keeps the others suited. -/
theorem Clause.Suited.snoc {clauses : List Clause} {clause : Clause} (suited : Suited clauses)
    (accepted : clause.refusal? clauses = none) : Suited (clauses ++ [clause]) := by
  intro before found after split
  -- Either the clause found is the new one, or the split is one of the earlier clauses.
  rcases snoc_eq_append_cons split with ⟨-, rfl, rfl⟩ | ⟨front, -, within⟩
  · exact accepted
  · exact suited before found front within

/-- The clauses up to some point are suited. -/
theorem Clause.Suited.initial {clauses others : List Clause} (suited : Suited (clauses ++ others)) :
    Suited clauses := by
  -- What is not refused among more clauses is not refused among fewer.
  intro before clause after split
  exact suited before clause (after ++ others) (by simp [split])

namespace Session

variable {method : Method} {preferences : Preferences} {texts : List String}
  {clauses : List Clause} {session : Session}

/-- The session past several numbered lines, whichever of them are refused. -/
def pastAll (lines : List (Nat × String)) (session : Session) : Session :=
  lines.foldl (fun session line => past line.1 line.2 session) session

/-- A further line is met by the session past the lines before it. -/
@[simp] theorem pastAll_snoc (lines : List (Nat × String)) (line : Nat × String)
    (session : Session) :
    pastAll (lines ++ [line]) session = past line.1 line.2 (pastAll lines session) := by
  simp [pastAll]

/-- Past any lines a session follows clauses that stand on some of them. -/
theorem follows_pastAll (method : Method) (preferences : Preferences)
    (lines : List (Nat × String)) :
    ∃ clauses, Follows method preferences (lines.map Prod.snd) clauses
        (pastAll lines (new method preferences none)) ∧
      ∀ clause ∈ clauses, ∃ line ∈ lines, Clause.onLine? line.1 line.2 = some clause := by
  -- The lines are met from left to right, so the induction takes off the last one.
  induction lines using List.reverseRecOn with
  | nil => exact ⟨[], follows_new method preferences, by simp⟩
  | append_singleton lines line ih =>
    obtain ⟨clauses, follows, held⟩ := ih
    rw [pastAll_snoc, List.map_append]
    -- A line is passed over, or it brings one more clause.
    rcases follows.past line.1 line.2 with ⟨follows, -⟩ | ⟨clause, found, follows, -⟩
    · refine ⟨clauses, follows, fun clause member => ?_⟩
      obtain ⟨earlier, among, found⟩ := held clause member
      exact ⟨earlier, List.mem_append_left _ among, found⟩
    · refine ⟨clauses ++ [clause], follows, fun other member => ?_⟩
      rcases List.mem_append.mp member with old | new
      · obtain ⟨earlier, among, found⟩ := held other old
        exact ⟨earlier, List.mem_append_left _ among, found⟩
      · rw [List.mem_singleton.mp new]
        exact ⟨line, by simp, found⟩

/-- Lines that are all accepted let a session follow the clauses on them. -/
theorem Follows.feedLines (lines : List String) :
    ∀ {number : Nat} {texts : List String} {clauses : List Clause} {session after : Session},
      Follows method preferences texts clauses session → Clause.Suited clauses →
      feedLines number lines session = .ok () after →
      Follows method preferences (texts ++ lines) (clauses ++ Clause.onLines number lines) after ∧
        Clause.Suited (clauses ++ Clause.onLines number lines) := by
  induction lines with
  | nil =>
    intro number texts clauses session after follows suited fed
    obtain rfl : session = after := by simpa [Session.feedLines] using fed
    simpa [Clause.onLines] using ⟨follows, suited⟩
  | cons text lines ih =>
    intro number texts clauses session after follows suited fed
    -- All lines are accepted, so the first one is and the others are.
    have accepted : feedLine number text session = .ok () (Session.past number text session) ∧
        Session.feedLines (number + 1) lines (Session.past number text session) = .ok () after := by
      cases result : feedLine number text session <;>
        simp_all [Session.feedLines, Session.past, Attempt.left]
    rcases follows.past number text with ⟨follows, silent⟩ | ⟨clause, found, follows, done⟩
    · -- The line holds no clause, for otherwise it would have been refused.
      have kept := ih follows suited accepted.2
      simpa [Clause.onLines, silent accepted.1] using kept
    · have unrefused : clause.refusal? clauses = none := by
        rw [accepted.1] at done
        cases refused : clause.refusal? clauses with
        | none => rfl
        | some fault => simp [refused] at done
      have kept := ih follows (suited.snoc unrefused) accepted.2
      simpa [Clause.onLines, found] using kept

/-- What is left in common once a session is closed. -/
structure Closed (method : Method) (preferences : Preferences) (texts : List String)
    (clauses : List Clause) (session : Session) : Prop where
  entered : session.graph.toList = clauses
  ordered : Clause.Ordered clauses
  proofLines : session.script.proofLines =
    (method.finalDraft session.graph).closedLines preferences.label
  remarks : session.script.remarks = remarksOf preferences texts

/-- A session is closed without a fault, and its figures are those of its graph. -/
theorem Follows.finish (follows : Follows method preferences texts clauses session) :
    ∃ closed, finish session = .ok {
        method
        clauses := clauses.length
        roots := session.roots
        derived := session.derived
        rules := (method.report session.graph).rules
        core := (method.report session.graph).core
        scriptLines := closed.script.lines.size } closed ∧
      Closed method preferences texts clauses closed := by
  -- The reconstruction follows the clauses of the graph.
  have reconstructs := follows.reconstruction
  rw [← follows.entered] at reconstructs
  obtain ⟨reconstruction, finished, lines, kept, same⟩ := reconstructs.finish
  -- Closing is up to the reconstruction, and the figures are read off the session.
  have closes : onReconstruction (Reconstruction.finish session.graph) session =
      .ok (method.report session.graph) { session with reconstruction } :=
    Attempt.onPart_ok finished
  have counted : session.graph.size = clauses.length := by
    rw [← follows.entered]
    exact Array.length_toList.symm
  refine ⟨{ session with reconstruction }, ?_, follows.entered, follows.ordered, lines, kept⟩
  simp [Session.finish, closes, same, counted]

/-- The lines of a trace held as a text. -/
def textLines (trace : String) : List String :=
  (Text.charLines trace.toList).map String.ofList

/-- A trace that is accepted leaves a closed session of the clauses on its lines. -/
theorem closed_of_runText {trace : String} {summary : Summary}
    (accepted : runText trace (new method preferences none) = .ok summary session) :
    Closed method preferences (textLines trace) (Clause.onLines 1 (textLines trace)) session ∧
      Clause.Suited (Clause.onLines 1 (textLines trace)) := by
  -- A fault in any line would have been the answer.
  cases fed : Session.feedLines 1 (textLines trace) (new method preferences none) with
  | error fault after =>
    rw [textLines] at fed
    simp [runText, fed] at accepted
  | ok value after =>
    obtain ⟨follows, suited⟩ :=
      Follows.feedLines (textLines trace) (follows_new method preferences) .nil fed
    obtain ⟨closed, finished, closes⟩ := follows.finish
    rw [textLines] at fed
    simp only [runText, Attempt.bind_apply, fed, finished] at accepted
    obtain ⟨-, rfl⟩ : _ ∧ closed = session := by simpa using accepted
    exact ⟨closes, suited⟩

/-- Whether a trace is accepted when there is room for every line of its script. -/
def accepts (method : Method) (trace : String) : Bool :=
  match runText trace (new method {} none) with
  | .ok _ _ => true
  | .error _ _ => false

/-- A trace that is accepted leaves figures and a session. -/
theorem runText_of_accepts {trace : String} (accepted : accepts method trace = true) :
    ∃ summary session, runText trace (new method {} none) = .ok summary session := by
  -- The run is evaluated once, and only its outcome is looked at.
  unfold accepts at accepted
  split at accepted
  · rename_i summary session ran
    exact ⟨summary, session, ran⟩
  · cases accepted

/-- Whether a trace is accepted when there is room for every line of its script, and the session then
passes a test. -/
def leaves (method : Method) (trace : String) (test : Session → Bool) : Bool :=
  match runText trace (new method {} none) with
  | .ok _ session => test session
  | .error _ _ => false

/-- A trace that is accepted and passes a test leaves figures and a session that passes it. -/
theorem runText_of_leaves {trace : String} {test : Session → Bool}
    (left : leaves method trace test = true) :
    ∃ summary session, runText trace (new method {} none) = .ok summary session ∧
      test session = true := by
  unfold leaves at left
  split at left
  · rename_i summary session ran
    exact ⟨summary, session, ran, left⟩
  · cases left

/-- A trace of an axiom and two steps. -/
def sample : String :=
  "cnf(a,axiom,p,file(f)).\ncnf(b,plain,q,[a]).\ncnf(c,plain,r,[a,b])."

/-- The sample is accepted by both methods. -/
theorem runText_sample (method : Method) :
    ∃ summary session, runText sample (new method {} none) = .ok summary session := by
  have accepted : accepts method sample = true := by
    cases method <;> decide +kernel
  exact runText_of_accepts accepted

end Session

end Retrace
