import Retrace.Proofs.Clause.Grammar
import Retrace.Proofs.Formula.Characters
import Retrace.Proofs.Justification
import Retrace.Proofs.Session
import Retrace.Proofs.Script.Statement

/-! The texts of a clause are made of characters of its line, and of the few that HOL notation adds. -/

namespace Retrace.Clause

variable {c : Char} {text : List Char}

/-- A name is within the text that it is written as. -/
theorem NameText.mem {name : List Char} (written : NameText text name) (member : c ∈ name) :
    c ∈ text := by
  cases written with
  | plain => exact member
  | quoted => simp [member]

/-- The formula and the justification at the end of a line are within what is written there. -/
theorem BodyText.mem {formula justification : List Char}
    (written : BodyText text formula justification) (member : c ∈ formula ∨ c ∈ justification) :
    c ∈ text := by
  cases written with
  | parted =>
    -- Only blanks at their ends are missing from them.
    rcases member with inFormula | inJustification
    · simp [Text.mem_of_mem_trim inFormula]
    · simp [Text.mem_of_mem_trim inJustification]

/-- The texts of an entry are within the line that it is written on. -/
theorem EntryText.mem {entry : Entry} (written : EntryText text entry)
    (member : c ∈ entry.name.toList ∨ c ∈ entry.formula.toList ∨
      c ∈ entry.justification.toList) : c ∈ text := by
  cases written with
  | line first _ third =>
    simp only [String.toList_ofList] at member
    rcases member with inName | others
    · obtain ⟨-, form, -⟩ := first
      simp [form.mem inName]
    · simp [third.mem others]

/-- The texts of a clause that a script may hold fit on a line. -/
structure FitsLine (clause : Clause) : Prop where
  name : Retrace.FitsLine clause.name
  formula : Retrace.FitsLine clause.formula
  parents : ∀ parent ∈ clause.parents, Retrace.FitsLine parent

/-- The texts of the clause on a line fit on a line again. -/
theorem fitsLine_of_onLine? {number : Nat} {line : String} {clause : Clause}
    (held : onLine? number line = some clause) (fits : Retrace.FitsLine line) :
    clause.FitsLine := by
  unfold onLine? at held
  split at held
  · rename_i entry read
    -- All fields are read from the trimmed line.
    have inside (d : Char) (member : d ∈ entry.name.toList ∨ d ∈ entry.formula.toList ∨
        d ∈ entry.justification.toList) : d ∈ line.toList :=
      Text.mem_of_mem_trim ((readLine_eq_entry_iff.mp read).mem member)
    cases cited : Justification.parents entry.justification with
    | error fault => simp [ofEntry, Bind.bind, Except.bind, cited, Except.toOption] at held
    | ok parents =>
      simp only [ofEntry, Bind.bind, Except.bind, cited, Except.toOption, Pure.pure, Except.pure,
        Option.some.injEq] at held
      subst held
      refine ⟨fun feed => fits (inside _ (.inl feed)), fun feed => ?_, fun parent member feed => ?_⟩
      · -- No pass over the formula writes a line feed.
        have written : '\n' ∈ Formula.toHol entry.formula.toList := by
          simpa [Formula.translate] using feed
        rcases Formula.mem_toHol written with given | own
        · exact fits (inside _ (.inr (.inl given)))
        · exact absurd own (by decide)
      · -- The names cited are read from the justification.
        have quoted := Justification.mem_of_mem_parents cited member feed
        exact fits (inside _ (.inr (.inr quoted)))
  · cases held

end Retrace.Clause
