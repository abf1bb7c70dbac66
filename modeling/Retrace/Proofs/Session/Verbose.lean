import Retrace.Proofs.Reconstruction.Parallel
import Retrace.Proofs.Session.Lockstep

/-!
A session and its verbose twin. Each line of a trace adds the same lines to both scripts, and to that
of the verbose session its own echo before them.
-/

namespace Retrace

open Attempt (Any Agrees Tracks)

/-- Reconstructions in parallel go in step. -/
theorem Reconstruction.inStep_parallel {relation : LinesRelation}
    (takes : ∀ statement, relation.Takes statement) : InStep (Parallel relation) where
  step := tracks_step_parallel takes
  late parallel := parallel.alike.isLateConjecture_eq

/-- Two summaries differ at most in the number of lines of the scripts. -/
def Summary.SameButLines (one other : Summary) : Prop :=
  other = { one with scriptLines := other.scriptLines }

namespace Preferences

/-- The preferences of a session that echoes no line. -/
def quiet (preferences : Preferences) : Preferences :=
  { preferences with verbose := false }

/-- The preferences of a session that echoes every line. -/
def loud (preferences : Preferences) : Preferences :=
  { preferences with verbose := true }

end Preferences

namespace Session

/-- What a line of a trace adds to a script. -/
structure Addition where
  /-- The line of the trace. -/
  text : String
  /-- The column at which the script stood before. -/
  column : Nat
  /-- The lines of the script. -/
  lines : List Line

/-- What a line of a trace adds to a script in which it is echoed: the echo comes first. -/
def Addition.echoed (addition : Addition) : Addition :=
  { addition with
    lines := (remark? addition.text).toList.map (Line.mk addition.column) ++ addition.lines }

/-- What lines of a trace add to the script of a session, one after the other. -/
def additions (number : Nat) : List String → Session → List Addition
  | [], _ => []
  | text :: texts, session =>
    let after := past number text session
    { text
      column := session.script.column
      lines := after.script.lines.toList.drop session.script.lines.size } ::
        additions (number + 1) texts after

/-- A session that echoes no line and one that echoes every line, which have taken the same lines. -/
abbrev Twins (preferences : Preferences) (relation : LinesRelation) : Session → Session → Prop :=
  Alike preferences.quiet preferences.loud (Reconstruction.Parallel relation)

/-- The relation between the lines of twins since the one that echoes has echoed a line. -/
def sinceEcho (text : String) (one other : Session) : LinesRelation :=
  .Since one.script.lines.toList
    (other.script.lines.toList ++ (remark? text).toList.map (Line.mk one.script.column))

variable {preferences : Preferences} {relation : LinesRelation} {one other : Session}

/-- Before the first line, the script is empty. -/
theorem lines_new (method : Method) (preferences : Preferences) (room : Option Nat) :
    (new method preferences room).script.lines.toList = [] := by
  cases method <;> rfl

/-- Sessions are twins before the first line. -/
theorem twins_new (method : Method) (preferences : Preferences) :
    Twins preferences Any (new method preferences.quiet none) (new method preferences.loud none) :=
  ⟨⟨rfl, rfl⟩, rfl, rfl, rfl, rfl, Reconstruction.parallel_new method preferences.label trivial⟩

/-- How the lines of twins are related may be told anew. -/
theorem Twins.retold {after : LinesRelation} (twins : Twins preferences relation one other)
    (related : after one.script.lines.toList other.script.lines.toList) :
    Twins preferences after one other :=
  { twins with reconstruction := twins.reconstruction.retold related }

/-- A line leaves its echo in the script of one twin and nothing in that of the other. -/
theorem Twins.echo (twins : Twins preferences Any one other) (text : String) :
    ∃ echoed,
      (if one.preferences.verbose then Session.echo text else pure ()) one = .ok () one ∧
      (if other.preferences.verbose then Session.echo text else pure ()) other = .ok () echoed ∧
      Twins preferences (sinceEcho text one other) one echoed := by
  rw [twins.preferences.1, twins.preferences.2, Preferences.quiet, Preferences.loud]
  by_cases blank : (Text.trim text.toList).isEmpty = true
  · -- A blank line is not echoed.
    refine ⟨other, rfl, by simp [Session.echo, blank], twins.retold ⟨[], ?_⟩⟩
    simp [remark?, blank]
  · obtain ⟨reconstruction, written, parallel⟩ := twins.reconstruction.write_right
      (sinceEcho text one other) (.comment (String.ofList (Text.trim text.toList)))
      ⟨[], by simp [remark?, blank, script]⟩
    refine ⟨{ other with reconstruction }, rfl, ?_, { twins with reconstruction := parallel }⟩
    simp only [Session.echo, blank, if_true, Bool.false_eq_true, if_false]
    exact Attempt.onPart_ok written

/-- Twins take a line, or refuse it for the same reason. It adds the same lines to both scripts, in
one of them behind its echo. -/
theorem Twins.feedLine (twins : Twins preferences Any one other) (number : Nat) (text : String) :
    Agrees (Twins preferences (sinceEcho text one other)) Any
      (Session.feedLine number text one) (Session.feedLine number text other) := by
  obtain ⟨echoed, silent, echoes, kept⟩ := twins.echo text
  rw [feedLine_eq number text silent, feedLine_eq number text echoes]
  -- Both read the same line, so that they take the same clause if it holds one.
  rcases Clause.readLine text with fault | ⟨_ | entry⟩
  · exact .stopped
  · exact .returned trivial kept
  · cases justified : Clause.ofEntry number entry with
    | error fault => simpa only [justified] using .stopped
    | ok clause =>
      have inStep : Reconstruction.InStep (Reconstruction.Parallel (sinceEcho text one other)) :=
        Reconstruction.inStep_parallel (LinesRelation.takes_since _ _)
      have asked : preferences.quiet.veryVerbose = preferences.loud.veryVerbose := rfl
      simpa only [justified] using tracks_take inStep asked clause kept

/-- Twins take lines of a trace, or refuse them for the same reason. What each line adds to the one
script it adds to the other together with its echo. -/
theorem Twins.feedLines (texts : List String) :
    ∀ (number : Nat) {one other : Session}, Twins preferences Any one other →
      Agrees (fun left right => Twins preferences Any left right ∧
          left.script.lines.toList = one.script.lines.toList ++
            (additions number texts one).flatMap Addition.lines ∧
          right.script.lines.toList = other.script.lines.toList ++
            (additions number texts other).flatMap Addition.lines ∧
          additions number texts other = (additions number texts one).map Addition.echoed) Any
        (Session.feedLines number texts one) (Session.feedLines number texts other) := by
  -- The sessions are twins again behind every line.
  induction texts with
  | nil =>
    intro number one other twins
    exact .returned trivial ⟨twins, by simp [additions], by simp [additions], rfl⟩
  | cons text texts ih =>
    intro number one other twins
    rcases (twins.feedLine number text).fault_or_values with
      ⟨fault, left, right, stopped, halted⟩ | ⟨_, _, left, right, went, came, -, after⟩
    · simp only [Session.feedLines, Attempt.bind_apply, stopped, halted]
      exact .stopped
    · have behind : past number text one = left := by simp [past, Attempt.left, went]
      have beyond : past number text other = right := by simp [past, Attempt.left, came]
      obtain ⟨added, mine, yours⟩ := after.reconstruction.alike.lines
      change left.script.lines.toList = _ at mine
      change right.script.lines.toList = _ at yours
      -- What the line adds to the two scripts differs by its echo.
      have first : left.script.lines.toList.drop one.script.lines.size = added := by
        rw [mine, ← Array.length_toList, List.drop_left]
      have second : right.script.lines.toList.drop other.script.lines.size =
          (remark? text).toList.map (Line.mk one.script.column) ++ added := by
        rw [yours, ← Array.length_toList, List.append_assoc, List.drop_left]
      have column : other.script.column = one.script.column :=
        twins.reconstruction.alike.column.symm
      simp only [Session.feedLines, Attempt.bind_apply, went, came]
      refine (ih (number + 1) (after.retold trivial)).weaken ?_
      rintro _ _ ⟨twins, lines, others, echoes⟩
      refine ⟨twins, ?_, ?_, ?_⟩
      · rw [lines, mine, additions, behind, List.flatMap_cons, first, List.append_assoc]
      · rw [others, yours, additions, beyond, List.flatMap_cons, second, List.append_assoc,
          List.append_assoc, List.append_assoc]
      · rw [additions, additions, behind, beyond, List.map_cons, Addition.echoed, first, second,
          column, echoes]

/-- Twins both close their scripts with the same lines, and with the same figures but for the number
of lines. -/
theorem Twins.finish (takes : ∀ statement, relation.Takes statement) :
    Tracks (Twins preferences relation) Summary.SameButLines Session.finish Session.finish := by
  unfold Session.finish
  refine Tracks.get.bind fun one other twins => ?_
  rw [twins.graph]
  have closes := Reconstruction.tracks_finish_parallel takes other.graph
  refine (tracks_onReconstruction closes).bind fun closing _ same => ?_
  obtain rfl := same
  refine Tracks.get.bind fun one other twins => .pure ?_
  -- All figures are read off what twins have in common, but for the lines.
  rw [Summary.SameButLines, twins.graph, twins.roots, twins.derived, twins.reconstruction.method_eq]

/-- Twins take a whole trace and close their scripts, or refuse it for the same reason. What each line
of the trace adds to the one script it adds to the other together with its echo, and closing them adds
the same lines. -/
theorem Twins.runText (method : Method) (preferences : Preferences) (trace : String) :
    let additions (preferences : Preferences) :=
      additions 1 (textLines trace) (new method preferences none)
    Agrees (fun plain echoed => plain.graph = echoed.graph ∧
        additions preferences.loud = (additions preferences.quiet).map Addition.echoed ∧
        ∃ closing,
          plain.script.lines.toList =
            (additions preferences.quiet).flatMap Addition.lines ++ closing ∧
          echoed.script.lines.toList =
            (additions preferences.loud).flatMap Addition.lines ++ closing)
      Summary.SameButLines (Session.runText trace (new method preferences.quiet none))
      (Session.runText trace (new method preferences.loud none)) := by
  intro additions
  -- The lines of the trace first, and then what the end of the trace adds.
  have fed := Twins.feedLines (textLines trace) 1 (twins_new method preferences)
  rw [lines_new, lines_new, List.nil_append, List.nil_append] at fed
  refine fed.bind fun _ _ left right _ kept => ?_
  obtain ⟨twins, mine, yours, echoes⟩ := kept
  -- The lines that close the scripts are those since the last line of the trace.
  have begun : Twins preferences (.Since left.script.lines.toList right.script.lines.toList)
      left right :=
    twins.retold ⟨[], (List.append_nil _).symm, (List.append_nil _).symm⟩
  refine (Twins.finish (LinesRelation.takes_since _ _) begun).weaken fun plain echoed after => ?_
  obtain ⟨closing, lines, others⟩ := after.reconstruction.alike.lines
  rw [mine] at lines
  rw [yours] at others
  exact ⟨after.graph, echoes, closing, lines, others⟩

/-- The figures of a session tell how many lines its script has. -/
theorem scriptLines_of_runText {trace : String} {session closed : Session} {summary : Summary}
    (accepted : Session.runText trace session = .ok summary closed) :
    summary.scriptLines = closed.script.lines.size := by
  rw [Session.runText, Attempt.bind_apply] at accepted
  -- The figures are read off once the lines are taken and the reconstruction is closed.
  cases fed : Session.feedLines 1 ((Text.charLines trace.toList).map String.ofList) session with
  | error fault after => simp [fed] at accepted
  | ok _ left =>
    simp only [fed] at accepted
    cases closes : onReconstruction (Reconstruction.finish left.graph) left with
    | error fault after => simp [Session.finish, closes] at accepted
    | ok closing after =>
      simp only [Session.finish, Attempt.bind_apply, Attempt.get_apply, closes,
        Attempt.pure_apply] at accepted
      obtain ⟨rfl, rfl⟩ := EStateM.Result.ok.inj accepted
      rfl

variable {method : Method} {texts : List String} {clauses : List Clause} {plain echoed : Session}

/-- A session that echoes no line closes a script without remarks. -/
theorem Closed.lines_of_quiet (closed : Closed method preferences.quiet texts clauses plain) :
    plain.script.lines.toList = plain.script.proofLines := by
  have none : plain.script.remarks = [] := closed.remarks
  rw [Script.remarks, List.filter_eq_nil_iff] at none
  rw [Script.proofLines, eq_comm, List.filter_eq_self]
  intro line member
  simpa using none line.statement (List.mem_map_of_mem member)

/-- Twins that are closed have the same proof, and this is the whole script of one of them. -/
theorem Closed.proofLines_of_loud (closed : Closed method preferences.quiet texts clauses plain)
    (shut : Closed method preferences.loud texts clauses echoed) (same : plain.graph = echoed.graph) :
    echoed.script.proofLines = plain.script.lines.toList := by
  rw [closed.lines_of_quiet, closed.proofLines, shut.proofLines, same]
  rfl

/-- Twins that are closed differ in length by the lines that were echoed. -/
theorem Closed.size_of_loud (closed : Closed method preferences.quiet texts clauses plain)
    (shut : Closed method preferences.loud texts clauses echoed) (same : plain.graph = echoed.graph) :
    echoed.script.lines.size = plain.script.lines.size + (texts.filterMap remark?).length := by
  have proof := congrArg List.length (closed.proofLines_of_loud shut same)
  have remarks := congrArg List.length shut.remarks
  -- Each line is read by the proof or is a remark.
  have parted := List.length_eq_length_filter_add (l := echoed.script.lines.toList)
    fun line => line.statement.isRemark
  rw [Script.remarks, List.filter_map, List.length_map] at remarks
  change _ = (texts.filterMap remark?).length at remarks
  rw [← Array.length_toList, ← Array.length_toList, parted, ← proof, ← remarks, Nat.add_comm]
  rfl

/-- The lines of a trace fit on a line. -/
theorem fitsLine_of_mem_textLines {trace text : String} (member : text ∈ textLines trace) :
    FitsLine text := by
  obtain ⟨line, among, rfl⟩ := List.mem_map.mp member
  have clean := Text.feed_notMem_of_mem_lines among
  rwa [FitsLine, String.toList_ofList]

/-- The clauses on lines of a trace fit on a line. -/
theorem fitsLine_of_mem_onLines {number : Nat} {texts : List String} {clause : Clause}
    (fit : ∀ text ∈ texts, FitsLine text) (member : clause ∈ Clause.onLines number texts) :
    clause.FitsLine := by
  obtain ⟨index, text, among, found⟩ := Clause.exists_onLine?_of_mem_onLines member
  exact Clause.fitsLine_of_onLine? found (fit text among)

/-- Every line of the script for an accepted trace fits on a line if the label does. -/
theorem fits_of_runText {trace : String} {summary : Summary} {session : Session}
    (accepted : runText trace (new method preferences none) = .ok summary session)
    (labelled : ∀ label ∈ preferences.label, FitsLine label) :
    ∀ line ∈ session.script.lines.toList, line.statement.Fits := by
  obtain ⟨closed, -⟩ := closed_of_runText accepted
  have fit : ∀ text ∈ textLines trace, FitsLine text := fun _ => fitsLine_of_mem_textLines
  intro line member
  exact closed.fits labelled fit (fun _ => fitsLine_of_mem_onLines fit) member

/-- If the label fits on a line, the text of the script for an accepted trace falls into its lines. -/
theorem textLines_of_runText {trace : String} {summary : Summary} {session : Session}
    (accepted : runText trace (new method preferences none) = .ok summary session)
    (labelled : ∀ label ∈ preferences.label, FitsLine label) :
    Script.textLines session.script.text = session.script.lines.toList.map Line.written := by
  have fits := fits_of_runText accepted labelled
  -- No line holds a line feed, so that each ends where it was ended.
  exact Script.textLines_join (fun line member => Statement.fitsLine_text (fits line member).2)
    fun line member => (fits line member).1

/-- If the label fits on a line, so that the text of each script falls into the lines written, the
text for a session that echoes no line is left of the other once its comment lines are deleted. -/
theorem textLines_of_loud {trace : String} {summary figures : Summary}
    (one : runText trace (new method preferences.quiet none) = .ok summary plain)
    (other : runText trace (new method preferences.loud none) = .ok figures echoed)
    (same : plain.graph = echoed.graph) (labelled : ∀ label ∈ preferences.label, FitsLine label) :
    (Script.textLines echoed.script.text).filter (! isRemarkText ·) =
      Script.textLines plain.script.text := by
  have fit := fits_of_runText other labelled
  obtain ⟨closed, -⟩ := closed_of_runText one
  obtain ⟨shut, -⟩ := closed_of_runText other
  rw [Script.filter_textLines (fun line member => Statement.fitsLine_text (fit line member).2)
    fun line member => (fit line member).1, closed.proofLines_of_loud shut same,
    textLines_of_runText one labelled]

end Session

/-- Whether or not the lines of a trace are echoed, it is refused for the same reason or accepted with
the same figures, save that the script has one line more for every line of the trace that is not
blank. Each line of the trace adds the same lines to both scripts, to one of them behind its echo, and
both are closed with the same lines. So the echoes are the only comments, in the order of the trace,
and without them the text is that of the script that has none. -/
theorem translateTrace_verbose (method : Method) (preferences : Preferences) (trace : String) :
    let remarks := (Session.textLines trace).filterMap Session.remark?
    let additions (preferences : Preferences) :=
      Session.additions 1 (Session.textLines trace) (.new method preferences none)
    (∃ fault, translateTrace method preferences.quiet trace = .error fault ∧
        translateTrace method preferences.loud trace = .error fault) ∨
      ∃ (summary : Summary) (plain echoed : Session) (closing : List Line),
        translateTrace method preferences.quiet trace = .ok (plain.script.text, summary) ∧
        translateTrace method preferences.loud trace = .ok (echoed.script.text,
          { summary with scriptLines := summary.scriptLines + remarks.length }) ∧
        plain.script.lines.toList =
          (additions preferences.quiet).flatMap Session.Addition.lines ++ closing ∧
        echoed.script.lines.toList =
          (additions preferences.loud).flatMap Session.Addition.lines ++ closing ∧
        additions preferences.loud =
          (additions preferences.quiet).map Session.Addition.echoed ∧
        echoed.script.remarks = remarks ∧
        echoed.script.textWithout Statement.isRemark = plain.script.text ∧
        ((∀ label ∈ preferences.label, FitsLine label) →
          (Script.textLines echoed.script.text).filter (! isRemarkText ·) =
            Script.textLines plain.script.text) := by
  intro remarks additions
  rcases (Session.Twins.runText method preferences trace).fault_or_values with
    ⟨fault, _, _, stopped, halted⟩ |
    ⟨summary, figures, plain, echoed, one, other, same, graph, echoes, closing, lines, others⟩
  · exact .inl ⟨fault, by simp [translateTrace, stopped], by simp [translateTrace, halted]⟩
  obtain ⟨closed, -⟩ := Session.closed_of_runText one
  obtain ⟨shut, -⟩ := Session.closed_of_runText other
  -- Both numbers of lines are read off the scripts.
  have longer : figures = { summary with scriptLines := summary.scriptLines + remarks.length } := by
    rw [same, Session.scriptLines_of_runText other, Session.scriptLines_of_runText one,
      closed.size_of_loud shut graph]
  -- Without the echoes both scripts have the same lines, and so the same text.
  have proof : echoed.script.textWithout Statement.isRemark = plain.script.text :=
    congrArg (fun kept : List Line => String.join (kept.map Line.text))
      (closed.proofLines_of_loud shut graph)
  exact .inr ⟨summary, plain, echoed, closing, by simp [translateTrace, one],
    by simp [translateTrace, other, longer], lines, others, echoes, shut.remarks, proof,
    Session.textLines_of_loud one other graph⟩

end Retrace
