import Retrace.Proofs.Outline
import Retrace.Proofs.Script.Statement
import Retrace.Proofs.Text.Lines

/-!
The text of a script, cut into lines again: these are the lines that were written, and the remarks
among them are told from the proof by how they start.
-/

namespace Retrace

namespace Line

/-- The written form of a line, without the line feed that ends it. -/
def written (line : Line) : String :=
  "".pushn ' ' line.column ++ line.statement.text

/-- Pushing spaces appends them. -/
theorem toList_pushn (count : Nat) : ("".pushn ' ' count).toList = List.replicate count ' ' := by
  -- Spaces are pushed one by one, each at the end.
  rw [String.pushn_eq_repeat_push]
  induction count with
  | zero => rfl
  | succ count ih => rw [Nat.repeat, String.toList_push, ih, List.replicate_succ']

/-- The characters of a line. -/
theorem toList_written (line : Line) :
    line.written.toList = List.replicate line.column ' ' ++ line.statement.text.toList := by
  rw [written, String.toList_append, toList_pushn]

/-- A line is written and ended. -/
theorem toList_text (line : Line) : line.text.toList = line.written.toList ++ ['\n'] := by
  simp [text, written]

variable {line : Line}

/-- A line whose statement fits on it holds no line feed. -/
theorem fitsLine_written (fits : FitsLine line.statement.text) : FitsLine line.written := by
  -- The column adds spaces only.
  unfold FitsLine at fits ⊢
  rw [toList_written, List.mem_append, not_or]
  exact ⟨by simp, fits⟩

/-- No line ends in a carriage return. -/
theorem getLast?_written (own : line.statement.isVerbatim = false) :
    line.written.toList.getLast? ≠ some '\r' := by
  have last := Statement.getLast?_text own
  rw [toList_written, List.getLast?_append]
  -- The statement decides how the line ends, unless it is empty.
  cases ends : line.statement.text.toList.getLast? with
  | some c => simpa [ends] using last
  | none => simp [List.getLast?_replicate]

end Line

/-- A line of a script that its proof does not read. -/
def isRemarkText (line : String) : Bool :=
  ['(', '*'].isPrefixOf (line.toList.dropWhile (· == ' '))

/-- The spaces in front of a text are those of its column. -/
theorem dropWhile_replicate {c : Char} {rest : List Char} (column : Nat) (shown : c ≠ ' ') :
    (List.replicate column ' ' ++ c :: rest).dropWhile (· == ' ') = c :: rest := by
  -- The spaces are dropped one by one.
  induction column with
  | zero => simp [shown]
  | succ column ih => simpa [List.replicate_succ] using ih

/-- Written lines show whether they are remarks. -/
theorem Line.isRemarkText_written {line : Line} (own : line.statement.isVerbatim = false) :
    isRemarkText line.written = line.statement.isRemark := by
  unfold isRemarkText
  rw [toList_written]
  cases remark : line.statement.isRemark with
  | true =>
    obtain ⟨rest, text⟩ : ∃ rest, line.statement.text.toList = '(' :: '*' :: rest := by
      cases stated : line.statement <;> simp_all [Statement.isRemark, Statement.text]
    -- Behind its column a remark starts with its two marks.
    rw [text, dropWhile_replicate line.column (by decide)]
    rfl
  | false =>
    obtain ⟨c, rest, text, shown, plain⟩ := Statement.text_eq_cons remark own
    rw [text, dropWhile_replicate line.column shown]
    simp [List.isPrefixOf, Ne.symm plain]

/-- The text that a line of a script consists of, its column apart. -/
def unindented (line : String) : String :=
  String.ofList (line.toList.dropWhile (· == ' '))

/-- Without its column, a written line is its statement. -/
theorem Line.unindented_written {line : Line} (read : line.statement.isRemark = false)
    (own : line.statement.isVerbatim = false) : unindented line.written = line.statement.text := by
  obtain ⟨c, rest, text, shown, -⟩ := Statement.text_eq_cons read own
  rw [unindented, toList_written, text, dropWhile_replicate line.column shown, ← text,
    String.ofList_toList]

namespace Script

/-- The lines of a script that is held as a text. -/
def textLines (text : String) : List String :=
  (Text.charLines text.toList).map String.ofList

/-- Lines that are written one after the other are found again in the text. -/
theorem textLines_join {lines : List Line}
    (fit : ∀ line ∈ lines, FitsLine line.statement.text)
    (own : ∀ line ∈ lines, line.statement.isVerbatim = false) :
    textLines (String.join (lines.map Line.text)) = lines.map Line.written := by
  induction lines with
  | nil => rfl
  | cons line lines ih =>
    -- The first line is cut off, and the text of the others is left.
    have others := ih (fun other member => fit other (List.mem_cons_of_mem _ member))
      fun other member => own other (List.mem_cons_of_mem _ member)
    have cut := Text.lines_fed (Line.fitsLine_written (fit line List.mem_cons_self))
      (Line.getLast?_written (own line List.mem_cons_self))
      (String.join (lines.map Line.text)).toList
    rw [textLines, Text.charLines] at others
    rw [List.map_cons, String.join_cons, textLines, String.toList_append, Line.toList_text,
      List.append_assoc, List.singleton_append, Text.charLines, cut, List.map_cons, others,
      String.ofList_toList, List.map_cons]

/-- A test of texts that is one of statements selects the lines of these statements. -/
theorem filter_textLines_eq {script : Script} (test : String → Bool) (kind : Statement → Bool)
    (fit : ∀ line ∈ script.lines.toList, FitsLine line.statement.text)
    (own : ∀ line ∈ script.lines.toList, line.statement.isVerbatim = false)
    (shows : ∀ line ∈ script.lines.toList, test line.written = kind line.statement) :
    (textLines script.text).filter test =
      (script.lines.toList.filter (kind ·.statement)).map Line.written := by
  rw [text, textLines_join fit own, List.filter_map]
  exact congrArg _ (List.filter_congr shows)

/-- The lines of the proof are those that are no remarks. -/
theorem filter_textLines {script : Script}
    (fit : ∀ line ∈ script.lines.toList, FitsLine line.statement.text)
    (own : ∀ line ∈ script.lines.toList, line.statement.isVerbatim = false) :
    (textLines script.text).filter (! isRemarkText ·) = script.proofLines.map Line.written :=
  -- A line is a remark exactly if its text shows it.
  filter_textLines_eq _ (! ·.isRemark) fit own fun line member =>
    congrArg (! ·) (Line.isRemarkText_written (own line member))

end Script

end Retrace
