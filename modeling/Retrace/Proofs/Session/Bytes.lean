import Retrace.Proofs.Session.Verbose
import Retrace.Proofs.Text.Encoding

/-!
A trace that is read from a file and the same trace held as a text. Both are cut into the same lines,
so that a session ends in the same way; a file may also hold what is no text, which is found out at
the first line that is none.
-/

namespace Retrace

open Attempt (Any Agrees Tracks)

namespace Script

/-- The bytes of a script that has room for every line are those of its text. -/
theorem bytes_eq_bytesOf {script : Script} (whole : script.torn = []) :
    script.bytes = Text.bytesOf script.text := by
  -- The text is put together line by line, and so are the bytes.
  have joined (lines : List Line) : lines.flatMap Line.bytes =
      Text.bytesOf (String.join (lines.map Line.text)) := by
    induction lines with
    | nil => rfl
    | cons line lines ih =>
      rw [List.flatMap_cons, ih, List.map_cons, String.join_cons, Text.bytesOf_append]
      rfl
  rw [bytes, whole, List.append_nil, joined, text]

end Script

namespace Session

variable {method : Method} {preferences : Preferences} {session : Session}

/-- Lines of bytes that are texts are taken as these texts. -/
theorem feedBytes_append (texts : List String) (others : List (List UInt8)) (number : Nat) :
    feedBytes number (texts.map Text.bytesOf ++ others) = (do
      feedLines number texts
      feedBytes (number + texts.length) others) := by
  -- Each line is decoded right before it is taken.
  induction texts generalizing number with
  | nil => simp [feedLines]
  | cons text texts ih =>
    rw [List.map_cons, List.cons_append, feedBytes, Text.fromUTF8?_eq_some_iff.mpr rfl, ih, feedLines,
      bind_assoc, List.length_cons, Nat.add_right_comm, Nat.add_assoc]

/-- The bytes of a trace are taken as the trace itself. -/
theorem runBytes_bytesOf (trace : String) : runBytes (Text.bytesOf trace) = runText trace := by
  -- All lines of the bytes are texts, and behind them there is nothing to take.
  have fed := feedBytes_append (textLines trace) [] 1
  rw [List.append_nil] at fed
  rw [runBytes, Text.byteLines_bytesOf]
  change (do feedBytes 1 ((textLines trace).map Text.bytesOf); finish) = _
  rw [fed, bind_assoc]
  simp [feedBytes, runText, textLines]

/-- Bytes that are no text are taken up to the first line that is none. -/
theorem runBytes_undecodable {content : List UInt8} {texts : List String}
    (decodes : Text.DecodesUpTo (Text.byteLines content) texts) :
    runBytes content session = match feedLines 1 texts session with
      | .ok _ fed => .error undecodable fed
      | .error fault stopped => .error fault stopped := by
  obtain ⟨bad, others, lines, undecoded⟩ := decodes
  rw [runBytes, lines, feedBytes_append, bind_assoc, Attempt.bind_apply]
  cases feedLines 1 texts session <;> simp [feedBytes, undecoded]

/-- Lines that are not all taken are taken up to one that is refused. -/
theorem feedLines_error {texts : List String} {number : Nat} {fault : Fault} {stopped : Session}
    (failed : feedLines number texts session = .error fault stopped) :
    ∃ before text others fed, texts = before ++ text :: others ∧
      feedLines number before session = .ok () fed ∧
      feedLine (number + before.length) text fed = .error fault stopped := by
  -- Either the first line is refused, or it is taken and a later one is refused.
  induction texts generalizing number session with
  | nil => simp [feedLines] at failed
  | cons text texts ih =>
    rw [feedLines, Attempt.bind_apply] at failed
    cases first : feedLine number text session with
    | error other after =>
      simp only [first] at failed
      exact ⟨[], text, texts, session, rfl, rfl, by rw [← failed]; exact first⟩
    | ok _ after =>
      simp only [first] at failed
      -- The lines before the refused one begin with this one.
      obtain ⟨before, last, others, fed, rfl, went, refused⟩ := ih failed
      refine ⟨text :: before, last, others, fed, rfl, ?_, ?_⟩
      · simp [feedLines, first, went]
      · rw [← refused, List.length_cons, Nat.add_right_comm, Nat.add_assoc]

/-- A trace that is not accepted has a line that is refused: closing the script never fails. -/
theorem runText_error {trace : String} {fault : Fault} {stopped : Session}
    (failed : runText trace (new method preferences none) = .error fault stopped) :
    feedLines 1 (textLines trace) (new method preferences none) = .error fault stopped := by
  cases fed : Session.feedLines 1 (textLines trace) (new method preferences none) with
  | error other after =>
    rw [textLines] at fed
    simpa [runText, fed] using failed
  | ok value after =>
    -- Once all lines are taken, the session follows their clauses and is closed.
    obtain ⟨follows, -⟩ :=
      Follows.feedLines (textLines trace) (follows_new method preferences) .nil fed
    obtain ⟨closed, finished, -⟩ := follows.finish
    rw [textLines] at fed
    simp [runText, fed, finished] at failed

/-- With unlimited room, an accepted trace leaves a script without torn lines. -/
theorem torn_of_runText {trace : String} {summary : Summary}
    (accepted : runText trace (new method preferences none) = .ok summary session) :
    session.script.torn = [] := by
  have takes (statement : Statement) : LinesRelation.Takes Any statement :=
    fun _ _ _ _ => trivial
  -- A session in parallel with itself has torn no line.
  have tracked : Tracks (Alike preferences preferences (Reconstruction.Parallel Any))
      Summary.SameCounts (runText trace) (runText trace) :=
    tracks_runText (Reconstruction.inStep_parallel takes) rfl
      (tracks_echo_if fun text => Reconstruction.tracks_write_parallel takes (.comment text))
      (Reconstruction.tracks_finish_parallel takes) trace
  -- The two sessions begin as the same new session.
  have begun : Alike preferences preferences (Reconstruction.Parallel Any)
      (new method preferences none) (new method preferences none) :=
    ⟨⟨rfl, rfl⟩, rfl, rfl, rfl, rfl,
      Reconstruction.parallel_new method preferences.label trivial⟩
  have agreed := tracked begun
  rw [accepted] at agreed
  cases agreed with
  | returned _ alike => exact alike.reconstruction.alike.whole.1

end Session

/-- A file is translated like the text that it holds: the figures are the same and the script is
written in full, or the fault is the same and what was written is due to the lines up to the one that
was refused. A file that holds no text has a first line that is none, and is translated like the lines
before it, behind which it fails: what was written is due to them, and nothing is closed. -/
theorem runContents_agrees (method : Method) (preferences : Preferences) (content : List UInt8) :
    let start := Session.new method preferences none
    let outcome := Command.runContents (.ok content) start
    (∀ trace, String.fromUTF8? ⟨content.toArray⟩ = some trace →
      (∀ script summary, translateTrace method preferences trace = .ok (script, summary) ↔
        ∃ session, outcome = .ok summary session ∧ session.script.bytes = Text.bytesOf script) ∧
      ∀ fault, translateTrace method preferences trace = .error fault ↔
        ∃ before text others fed stopped, outcome = .error fault stopped ∧
          Session.textLines trace = before ++ text :: others ∧
          Session.feedLines 1 before start = .ok () fed ∧
          Session.feedLine (1 + before.length) text fed = .error fault stopped) ∧
    (∀ texts, Text.DecodesUpTo (Text.byteLines content) texts →
      outcome = match Session.feedLines 1 texts start with
        | .ok _ fed => .error Session.undecodable fed
        | .error fault stopped => .error fault stopped) ∧
    (String.fromUTF8? ⟨content.toArray⟩ = none ↔
      ∃ texts, Text.DecodesUpTo (Text.byteLines content) texts) := by
  intro start outcome
  refine ⟨fun trace decoded => ?_, fun texts => Session.runBytes_undecodable,
    Text.fromUTF8?_eq_none_iff content⟩
  obtain rfl := Text.fromUTF8?_eq_some_iff.mp decoded
  -- The file is taken as the text is, so that only the two ways of reporting are to be compared.
  have same : outcome = Session.runText trace start := by
    rw [← Session.runBytes_bytesOf]
    rfl
  rw [same]
  constructor
  · intro script summary
    cases ran : Session.runText trace start with
    | error fault stopped => simp [translateTrace, start, ran]
    | ok figures session =>
      have written := Script.bytes_eq_bytesOf (Session.torn_of_runText ran)
      have answer : translateTrace method preferences trace = .ok (session.script.text, figures) := by
        simp [translateTrace, start, ran]
      rw [answer]
      -- The bytes written determine the text of the script.
      constructor
      · rintro ⟨⟩
        exact ⟨session, rfl, written⟩
      · rintro ⟨_, ⟨⟩, bytes⟩
        rw [Text.bytesOf_inj.mp (written.symm.trans bytes)]
  · intro fault
    constructor
    · intro failed
      cases ran : Session.runText trace start with
      | error other stopped =>
        obtain rfl : other = fault := by simpa [translateTrace, start, ran] using failed
        obtain ⟨before, text, others, fed, refusal⟩ :=
          Session.feedLines_error (Session.runText_error ran)
        exact ⟨before, text, others, fed, stopped, rfl, refusal⟩
      | ok summary session => simp [translateTrace, start, ran] at failed
    · rintro ⟨_, _, _, _, stopped, ran, -⟩
      simp [translateTrace, start, ran]

end Retrace
