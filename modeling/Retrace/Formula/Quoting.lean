/-!
Quoted spans of a formula. A span starts at a single or double quote and ends at the next quote of
the same kind that no backslash protects; nothing inside a span is changed.
-/

namespace Retrace.Formula

/-- A quotation mark is a single or a double quote. -/
def isMark (c : Char) : Bool :=
  c == '\x27' || c == '"'

/-- Where a scanner stands: outside every span, inside a span that its mark opened, or inside a span
directly after a backslash. -/
inductive Quoting where
  | outside
  | inside (mark : Char)
  | escaped (mark : Char)
  deriving DecidableEq, Repr

/-- Where a scanner stands after one more character. -/
def Quoting.next : Quoting → Char → Quoting
  | .outside, c => if isMark c then .inside c else .outside
  | .inside mark, c =>
    if c = '\\' then .escaped mark else if c = mark then .outside else .inside mark
  | .escaped mark, _ => .inside mark

/-- Whether a character read in this state belongs to a span, its two marks included. -/
def Quoting.covers (quoting : Quoting) (c : Char) : Bool :=
  quoting != .outside || isMark c

/-- Outside spans, a character is covered exactly when it opens one. -/
@[simp] theorem Quoting.covers_outside (c : Char) : Quoting.outside.covers c = isMark c := by
  simp [Quoting.covers]

end Retrace.Formula
