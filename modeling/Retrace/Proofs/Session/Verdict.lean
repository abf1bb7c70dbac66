import Retrace.Proofs.Clause.Offence
import Retrace.Proofs.Session.Run

/-!
Which traces are accepted: those without a line that offends behind the clauses before it. Any other
trace is answered with the fault of the first line that does.
-/

namespace Retrace

namespace Clause

variable {earlier : List Clause} {number : Nat} {fault : Fault}

/-- The fault of the first line that has one behind the clauses on the lines before it. -/
def firstFault? (earlier : List Clause) (number : Nat) : List String → Option Fault
  | [] => none
  | text :: texts =>
    (fault? earlier number text).or
      (firstFault? (earlier ++ (onLine? number text).toList) (number + 1) texts)

/-- There is no first fault exactly if no line has any. -/
theorem firstFault?_eq_none_iff {texts : List String} :
    firstFault? earlier number texts = none ↔
      ∀ before text after, texts = before ++ text :: after →
        fault? (earlier ++ onLines number before) (number + before.length) text = none := by
  -- The clauses on the first line come before all other lines.
  induction texts generalizing earlier number with
  | nil => simp [firstFault?]
  | cons first texts ih =>
    rw [firstFault?, Option.or_eq_none_iff, ih]
    constructor
    · rintro ⟨clean, others⟩ before text after split
      cases before with
      | nil =>
        obtain ⟨rfl, -⟩ := List.cons_eq_cons.mp split
        simpa [onLines] using clean
      | cons other before =>
        obtain ⟨rfl, rest⟩ := List.cons_eq_cons.mp split
        have later := others before text after rest
        simpa [onLines, Nat.add_assoc, Nat.add_comm 1] using later
    · -- The first line is one of them, and the others stand behind it.
      intro all
      refine ⟨by simpa [onLines] using all [] first texts rfl, ?_⟩
      intro before text after split
      have later := all (first :: before) text after (by rw [split, List.cons_append])
      simpa [onLines, Nat.add_assoc, Nat.add_comm 1] using later

/-- The first fault is that of some line, and the lines before it have none. -/
theorem firstFault?_eq_some_iff {texts : List String} :
    firstFault? earlier number texts = some fault ↔
      ∃ before text after, texts = before ++ text :: after ∧
        firstFault? earlier number before = none ∧
        fault? (earlier ++ onLines number before) (number + before.length) text = some fault := by
  -- Either the first line has the fault, or it has none and a later one does.
  induction texts generalizing earlier number with
  | nil => simp [firstFault?]
  | cons first texts ih =>
    rw [firstFault?, Option.or_eq_some_iff, ih]
    constructor
    · rintro (found | ⟨clean, before, text, after, rfl, others, found⟩)
      · exact ⟨[], first, texts, rfl, rfl, by simpa [onLines] using found⟩
      · refine ⟨first :: before, text, after, rfl, ?_, ?_⟩
        · rw [firstFault?, clean, others, Option.none_or]
        · simpa [onLines, Nat.add_assoc, Nat.add_comm 1] using found
    · rintro ⟨before, text, after, split, clean, found⟩
      -- With no line before it, it is the first one that has the fault.
      cases before with
      | nil =>
        obtain ⟨rfl, -⟩ := List.cons_eq_cons.mp split
        exact .inl (by simpa [onLines] using found)
      | cons other before =>
        obtain ⟨rfl, rest⟩ := List.cons_eq_cons.mp split
        rw [firstFault?, Option.or_eq_none_iff] at clean
        refine .inr ⟨clean.1, before, text, after, rest, clean.2, ?_⟩
        simpa [onLines, Nat.add_assoc, Nat.add_comm 1] using found

/-- Lines none of which offends behind the clauses on the lines before it. -/
def Clean (texts : List String) : Prop :=
  ∀ before text after, texts = before ++ text :: after →
    ∀ fault, ¬ Offends (onLines 1 before) (before.length + 1) text fault

/-- Lines are clean exactly if there is no first fault. -/
theorem clean_iff {texts : List String} : Clean texts ↔ firstFault? [] 1 texts = none := by
  rw [firstFault?_eq_none_iff]
  simp only [Clean, List.nil_append, Nat.add_comm 1, Option.eq_none_iff_forall_ne_some, ne_eq,
    fault?_eq_some_iff]

end Clause

namespace Session

variable {method : Method} {preferences : Preferences} {texts : List String}
  {clauses : List Clause} {session : Session}

/-- Entering a clause stops with its conflict with the clauses before it or, without one, with the
reason for which it has no place in the script. -/
theorem Follows.fault?_enter (follows : Follows method preferences texts clauses session)
    (clause : Clause) :
    (Session.enter clause).fault? session = (clause.conflict? clauses).or (clause.refusal? clauses) := by
  have inserted := @Graph.insert_eq session.graph clause
  rw [follows.entered] at inserted
  -- The graph refuses first, and the reconstruction is asked only if it does not.
  cases conflict : clause.conflict? clauses with
  | some fault =>
    rw [conflict] at inserted
    simp [Attempt.fault?, Session.enter, inserted]
  | none =>
    rw [conflict] at inserted
    rcases follows.enter clause with ⟨fault, refused, -⟩ | ⟨after, -, entered⟩
    · -- The graph takes what is in conflict with nothing.
      rw [inserted] at refused
      cases refused
    · unfold Attempt.fault?
      rw [entered]
      cases clause.refusal? clauses <;> rfl

/-- A line stops a session with the fault that its checks find behind the clauses before it. -/
theorem Follows.fault?_feedLine (follows : Follows method preferences texts clauses session)
    (number : Nat) (text : String) :
    (feedLine number text).fault? session = Clause.fault? clauses number text := by
  obtain ⟨echoed, follows, echoes⟩ := follows.echo text
  have fed := feedLine_eq number text echoes
  unfold Attempt.fault? Clause.fault?
  -- Reading the line does not depend on the session.
  rcases read : Clause.readLine text with fault | ⟨_ | entry⟩ <;> rw [fed, read]
  cases justified : Clause.ofEntry number entry with
  | error fault => simp [justified]
  | ok clause =>
    have entered := (follows.counted clause).fault?_enter clause
    simpa [justified, take_eq_enter, Attempt.fault?] using entered

/-- A line that is accepted lets the session follow its clause, if it has one. -/
theorem Follows.feedLine_ok (follows : Follows method preferences texts clauses session)
    {number : Nat} {text : String} {after : Session}
    (accepted : feedLine number text session = .ok () after) :
    Follows method preferences (texts ++ [text])
      (clauses ++ (Clause.onLine? number text).toList) after := by
  have reached : Session.past number text session = after := by
    simp [Session.past, Attempt.left, accepted]
  -- A line that is accepted and enters no clause holds none.
  rcases follows.past number text with ⟨follows, silent⟩ | ⟨clause, held, follows, -⟩
  · rw [reached] at follows silent
    simpa [silent accepted] using follows
  · rw [reached] at follows
    simpa [held] using follows

/-- Several lines stop a session with the first fault among them. -/
theorem Follows.fault?_feedLines (lines : List String) :
    ∀ {number : Nat} {texts : List String} {clauses : List Clause} {session : Session},
      Follows method preferences texts clauses session →
      (Session.feedLines number lines).fault? session = Clause.firstFault? clauses number lines := by
  induction lines with
  | nil => intros; rfl
  | cons text lines ih =>
    intro number texts clauses session follows
    have first := follows.fault?_feedLine number text
    unfold Attempt.fault? at first ih ⊢
    rw [Clause.firstFault?, Session.feedLines, Attempt.bind_apply, ← first]
    -- The other lines are met only if the first one is accepted.
    cases fed : feedLine number text session with
    | error fault after => rfl
    | ok value after => exact ih (follows.feedLine_ok fed)

/-- A trace is answered with the first fault among its lines, for closing the script has none. -/
theorem fault?_runText (method : Method) (preferences : Preferences) (trace : String) :
    (runText trace).fault? (new method preferences none) =
      Clause.firstFault? [] 1 (textLines trace) := by
  have begins := follows_new method preferences
  rw [← begins.fault?_feedLines]
  unfold Attempt.fault? runText textLines
  rw [Attempt.bind_apply]
  cases fed : Session.feedLines 1 ((Text.charLines trace.toList).map String.ofList)
    (new method preferences none) with
  | error fault after => rfl
  | ok value after =>
    -- The session that is closed follows all lines, so that closing it cannot fail.
    obtain ⟨closed, finished, -⟩ := (begins.feedLines _ .nil fed).1.finish
    simp [finished]

end Session

/-- Whatever the method and the preferences, a trace has a script exactly if its lines are clean.
Otherwise the answer is the fault of its first line that offends, which is never one of reading or
writing. -/
theorem translateTrace_verdict (method : Method) (preferences : Preferences) (trace : String) :
    ((∃ answer, translateTrace method preferences trace = .ok answer) ↔
        Clause.Clean (Session.textLines trace)) ∧
      (∀ fault, translateTrace method preferences trace = .error fault ↔
        ∃ before text after, Session.textLines trace = before ++ text :: after ∧
          Clause.Clean before ∧
          Clause.Offends (Clause.onLines 1 before) (before.length + 1) text fault) ∧
      ∀ problem, translateTrace method preferences trace ≠ .error (.transfer problem) := by
  -- The method and the preferences play no part in the first fault.
  have stops := Session.fault?_runText method preferences trace
  have answered (fault : Fault) : translateTrace method preferences trace = .error fault ↔
      Clause.firstFault? [] 1 (Session.textLines trace) = some fault := by
    rw [← stops]
    unfold translateTrace Attempt.fault?
    cases Session.runText trace (Session.new method preferences none) <;> simp
  have offended (fault : Fault) : translateTrace method preferences trace = .error fault ↔
      ∃ before text after, Session.textLines trace = before ++ text :: after ∧
        Clause.Clean before ∧
        Clause.Offends (Clause.onLines 1 before) (before.length + 1) text fault := by
    simp only [answered, Clause.firstFault?_eq_some_iff, Clause.clean_iff, List.nil_append,
      Nat.add_comm 1, Clause.fault?_eq_some_iff]
  refine ⟨?_, offended, ?_⟩
  · rw [Clause.clean_iff, ← stops]
    unfold translateTrace Attempt.fault?
    cases Session.runText trace (Session.new method preferences none) <;> simp
  · -- No offence is one of reading or writing.
    intro problem failed
    obtain ⟨before, text, after, -, -, offends⟩ := (offended _).mp failed
    exact offends.ne_transfer problem rfl

end Retrace
