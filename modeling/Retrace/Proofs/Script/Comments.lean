import Retrace.Proofs.Script

/-!
Comments of a script as a checker reads them. Comments nest: every `(*` opens one more and every `*)`
closes one, where the two marks do not overlap. A text is remarked without the marks that close, so
that its comment does not end early; the marks that open are left, and each of them takes one mark to
close that is not there.
-/

namespace Retrace

/-- What is left of a text behind the mark that closes all open comments, if there is one. The level is
the number of comments that are open in front of the text. -/
def behindComments? : Nat → List Char → Option (List Char)
  | level, '(' :: '*' :: rest => behindComments? (level + 1) rest
  -- Outside of all comments, the mark that closes is no mark.
  | 1, '*' :: ')' :: rest => some rest
  | level + 2, '*' :: ')' :: rest => behindComments? (level + 1) rest
  | level, _ :: rest => behindComments? level rest
  | _, [] => none

/-- How many comments a text opens. -/
def openingMarks : List Char → Nat
  | '(' :: '*' :: rest => openingMarks rest + 1
  | _ :: rest => openingMarks rest
  | [] => 0

variable {level : Nat} {rest : List Char}

/-- A character that starts no mark is passed over. -/
theorem behindComments?_cons {c : Char} (opens : c = '(' → rest.head? ≠ some '*')
    (closes : c = '*' → rest.head? ≠ some ')') :
    behindComments? level (c :: rest) = behindComments? level rest := by
  rw [behindComments?.eq_def]
  split <;> simp_all

/-- A space is passed over. -/
theorem behindComments?_space :
    behindComments? level (' ' :: rest) = behindComments? level rest :=
  behindComments?_cons nofun nofun

/-- The columns of a line are passed over. -/
theorem behindComments?_replicate (column : Nat) :
    behindComments? level (List.replicate column ' ' ++ rest) = behindComments? level rest := by
  induction column with
  | zero => rfl
  | succ column ih =>
    rw [List.replicate_succ, List.cons_append, behindComments?_space, ih]

namespace Statement

/-- Parting asterisks from parentheses keeps the first character. -/
theorem head?_withoutCommentEnd (text : List Char) :
    (withoutCommentEnd text).head? = text.head? := by
  fun_cases withoutCommentEnd text <;> rfl

/-- Behind an asterisk there is at most a space more. -/
theorem withoutCommentEnd_asterisk (text : List Char) :
    withoutCommentEnd ('*' :: text) = if text.head? = some ')' then
      '*' :: ' ' :: withoutCommentEnd text else '*' :: withoutCommentEnd text := by
  cases text with
  | nil => rfl
  | cons c text =>
    by_cases closes : c = ')'
    · subst closes
      simp [withoutCommentEnd]
    · simp [withoutCommentEnd, closes]

/-- In front of a space, a text in which no comment can end closes nothing, and opens what the text
itself opens. -/
theorem behindComments?_withoutCommentEnd (text : List Char) :
    ∀ level, behindComments? level (withoutCommentEnd text ++ ' ' :: rest) =
      behindComments? (level + openingMarks text) (' ' :: rest) := by
  -- What the next character is does not depend on the asterisks that are parted behind it.
  have next (text : List Char) {c : Char} (shown : c ≠ ' ') (other : text.head? ≠ some c) :
      (withoutCommentEnd text ++ ' ' :: rest).head? ≠ some c := by
    rw [List.head?_append, head?_withoutCommentEnd]
    cases text <;> simp_all [eq_comm]
  fun_induction openingMarks text with
  | case1 text ih =>
    -- The asterisk of the mark may be parted from a parenthesis behind it.
    intro level
    have parted : withoutCommentEnd ('(' :: '*' :: text) = '(' :: withoutCommentEnd ('*' :: text) := by
      simp [withoutCommentEnd]
    rw [parted, withoutCommentEnd_asterisk, Nat.add_comm (openingMarks text), ← Nat.add_assoc, ← ih]
    split
    · exact behindComments?_space
    · rfl
  | case2 c text other ih =>
    intro level
    rw [← ih]
    by_cases asterisk : c = '*'
    · subst asterisk
      rw [withoutCommentEnd_asterisk]
      split
      · rw [List.cons_append, List.cons_append, behindComments?_cons (by simp) (by simp),
          behindComments?_space]
      · exact behindComments?_cons (by simp) fun _ => next text (by decide) ‹_›
    · have kept : withoutCommentEnd (c :: text) = c :: withoutCommentEnd text := by
        simp [withoutCommentEnd, asterisk]
      rw [kept]
      refine behindComments?_cons (fun paren => next text (by decide) fun starred => ?_)
        fun same => absurd same asterisk
      obtain ⟨behind, split⟩ := List.head?_eq_some_iff.mp starred
      exact other behind paren split
  | case3 => intro level; rfl

end Statement

/-- Wherever it stands, a remark is one comment exactly if its text opens none. Then the comment is
closed by the end of the line and not before. Otherwise it is not closed by the line, and what follows
is inside as many comments as the text opens. -/
theorem behindComments_written_comment (column : Nat) (text : String) (rest : List Char) :
    behindComments? 0 ((Line.mk column (.comment text)).written.toList ++ rest) =
      if openingMarks text.toList = 0 then some rest
      else behindComments? (openingMarks text.toList) rest := by
  have shown : (Line.mk column (.comment text)).written.toList ++ rest =
      List.replicate column ' ' ++ '(' :: '*' :: ' ' ::
        (Statement.withoutCommentEnd text.toList ++ ' ' :: '*' :: ')' :: rest) := by
    simp [Line.toList_written, Statement.text]
  rw [shown, behindComments?_replicate, behindComments?, behindComments?_space,
    Statement.behindComments?_withoutCommentEnd, behindComments?_space]
  -- The mark at the end closes one comment, which is the outermost only if it is the only one.
  cases openingMarks text.toList with
  | zero => rfl
  | succ opened =>
    have level : 0 + 1 + (opened + 1) = opened + 2 := by omega
    rw [level, if_neg (Nat.succ_ne_zero opened), behindComments?]

/-- A remark of a mark that opens a comment is not closed by its line. -/
theorem behindComments_written_openingMark :
    (Line.mk 0 (.comment "(*")).written = "(* (* *)" ∧
      behindComments? 0 (Line.mk 0 (.comment "(*")).written.toList = none := by
  decide +kernel

end Retrace
