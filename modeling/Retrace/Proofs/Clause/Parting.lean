import Mathlib.Data.List.Infix
import Retrace.Proofs.Clause.Grammar
import Retrace.Proofs.Formula.Bracketing
import Retrace.Proofs.Text.Words

/-!
Where the formula of a clause line ends. A formula whose brackets are nested, and which has no comma
outside brackets and quoted spans, is read up to its end and no further, as long as plain quotes read
its spans alike.
-/

namespace Retrace

namespace Formula

/-- No comma stands outside brackets and quoted spans. -/
def CommasEnclosed (text : List Char) : Prop :=
  ∀ front ∈ (unquoted .outside text).inits, front ++ [','] <+: unquoted .outside text →
    awaitedBehind? front ≠ some []

instance (text : List Char) : Decidable (CommasEnclosed text) :=
  inferInstanceAs (Decidable (∀ _ ∈ _, _))

variable {quoting : Quoting} {nesting : Nesting} {awaited after text : List Char} {c : Char}

/-- Behind a text in which no mark is protected, the nesting still tells what is awaited. -/
theorem Nesting.Tells.past (tells : nesting.Tells quoting awaited) (marked : quoting.Marked)
    (unescaped : Unescaped quoting text)
    (found : (unquoted quoting text).foldlM await? awaited = some after) :
    (nesting.past text).Tells (quoting.past text) after := by
  induction text generalizing nesting quoting awaited with
  | nil =>
    obtain rfl : awaited = after := by simpa [unquoted, scan] using found
    exact tells
  | cons c text ih =>
    obtain ⟨first, later⟩ := List.forall_mem_cons.mp unescaped
    -- A covered character is left out by one side, and passed over by the other.
    cases covered : quoting.covers c with
    | true =>
      rw [unquoted_cons_of_covers covered] at found
      exact ih (tells.covered marked first covered) (marked.next c) later found
    | false =>
      obtain ⟨rfl, unmarked, left⟩ := Quoting.of_not_covers covered
      rw [unquoted_cons covered, List.foldlM_cons] at found
      obtain ⟨between, step, others⟩ := Option.bind_eq_some_iff.mp found
      -- The character stands outside of quotes, so that both count its brackets.
      have next : (nesting.next c).Tells (Quoting.outside.next c) between := by
        rw [left]
        exact tells.uncovered unmarked step
      exact ih next (marked.next c) later others

/-- A nested formula ends outside brackets and quotes. -/
theorem endsOutside_of_nested (unescaped : Unescaped .outside text) (closed : Terminated text)
    (nested : Nested text) : EndsOutside text := by
  have tells := Nesting.tells_start.past Quoting.marked_outside unescaped nested
  refine ⟨?_, tells.depth⟩
  rw [tells.quote, closed]
  rfl

/-- A nested formula whose commas are enclosed is not parted at any. -/
theorem unparted_of_commasEnclosed (unescaped : Unescaped .outside text) (nested : Nested text)
    (enclosed : CommasEnclosed text) : Unparted text := by
  rintro front back rfl ⟨noQuote, noBracket⟩
  -- What is unquoted in front is nested as far as it goes.
  rw [Nested, awaitedBehind?, unquoted_append, List.foldlM_append] at nested
  obtain ⟨awaited, found, -⟩ := Option.bind_eq_some_iff.mp nested
  obtain ⟨first, -⟩ := unescaped_append_iff.mp unescaped
  have tells := Nesting.tells_start.past Quoting.marked_outside first found
  have outside : Quoting.outside.past front = .outside :=
    Quoting.mark?_eq_none_iff.mp (tells.quote.symm.trans noQuote)
  obtain rfl : awaited = [] := List.eq_nil_of_length_eq_zero (tells.depth.symm.trans noBracket)
  -- So the comma is one that is not enclosed.
  have split : unquoted .outside (front ++ ',' :: back) =
      unquoted .outside front ++ [','] ++ unquoted .outside back := by
    rw [unquoted_append, outside, unquoted_cons rfl]
    simp [Quoting.next, isMark]
  refine enclosed _ ((List.mem_inits _ _).mpr ?_) ?_ found
  · rw [split, List.append_assoc]
    exact List.prefix_append _ _
  · rw [split]
    exact List.prefix_append _ _

end Formula

namespace Clause

open Text (AllBlank AllLayout isBlank trim)
open Formula (CommasEnclosed EndsOutside Nested Terminated Unescaped Unparted)

variable {language : Language} {written name role formula justification : String}

/-- A field may have a space in front of it. -/
theorem FieldText.behind_space {form : List Char → List Char → Prop} {written field : List Char}
    (text : form written field) : FieldText form (' ' :: written) field := by
  have space : AllLayout [' '] := by decide
  have nothing : AllLayout [] := by decide
  simpa using FieldText.spaced space text nothing

/-- A field may stand alone. -/
theorem FieldText.alone {form : List Char → List Char → Prop} {written field : List Char}
    (text : form written field) : FieldText form written field := by
  have nothing : AllLayout [] := by decide
  simpa using FieldText.spaced nothing text nothing

/-- A formula and a justification that are trimmed are found at the end of a line with a space in
front of each, if the formula ends outside brackets and quotes and is not parted before. -/
theorem BodyText.spaced {formula justification : List Char} (given : formula ≠ [])
    (trimmed : trim formula = formula) (justified : justification ≠ [])
    (spare : trim justification = justification) (outside : EndsOutside formula)
    (unparted : Unparted formula) :
    BodyText (' ' :: (formula ++ ',' :: ' ' :: (justification ++ [')', '.']))) formula
      justification := by
  -- A space neither opens nor closes anything.
  have ends : EndsOutside (' ' :: formula) := outside
  have first : Unparted (' ' :: formula) := by
    intro front back split
    cases front with
    | nil => cases split
    | cons d front =>
      obtain ⟨rfl, rfl⟩ := List.cons.inj split
      exact unparted front back rfl
  -- The spaces behind the commas are trimmed off.
  have left : trim (' ' :: formula) = formula := trimmed
  have right : trim (' ' :: justification) = justification := spare
  have nothing : AllBlank [] := by simp [AllBlank]
  have whole := BodyText.parted ends first (left.symm ▸ given) (right.symm ▸ justified) nothing
  rw [left, right] at whole
  simpa using whole

/-- A clause is read from the line that holds its fields, if its formula ends outside brackets and
quotes and is not parted before. -/
theorem readLine_fields (named : NameText written.toList name.toList) (played : IsWord role.toList)
    (given : formula ≠ "") (trimmed : trim formula.toList = formula.toList)
    (justified : justification ≠ "") (spare : trim justification.toList = justification.toList)
    (outside : EndsOutside formula.toList) (unparted : Unparted formula.toList) :
    readLine (language.tag ++ "(" ++ written ++ ", " ++ role ++ ", " ++ formula ++ ", " ++
        justification ++ ").") =
      .ok (some { language, name, role, formula, justification }) := by
  -- The blanks behind the commas belong to the fields, and are trimmed off them.
  have body := BodyText.spaced (by simpa using given) trimmed (by simpa using justified) spare
    outside unparted
  have whole : EntryText _ { language, name := _, role := _, formula := _, justification := _ } :=
    .line (FieldText.alone named) (FieldText.behind_space (RoleText.plain played)) body
  simp only [String.ofList_toList] at whole
  -- The line starts with a letter and ends with a full stop, so that it is trimmed.
  have line : (language.tag ++ "(" ++ written ++ ", " ++ role ++ ", " ++ formula ++ ", " ++
      justification ++ ").").toList = language.tag.toList ++ '(' :: (written.toList ++ ',' ::
        (' ' :: role.toList ++ ',' :: ' ' :: (formula.toList ++ ',' :: ' ' ::
          (justification.toList ++ [')', '.'])))) := by
    simp
  rw [readLine_eq_entry_iff, Text.trim_eq_self_of_ends, line]
  · exact whole
  · -- Both languages are named by letters.
    have letter : ∀ c ∈ language.tag.toList.head?, isBlank c = false := by
      cases language <;> simp [Language.tag, isBlank]
    rw [line]
    cases language <;> exact letter
  · have stop : ∀ c ∈ [')', '.'].getLast?, isBlank c = false := by simp [isBlank]
    rw [String.toList_append, List.getLast?_append]
    exact stop

/-- A formula whose spans are closed, whose brackets outside these are nested, and which has no comma
outside both is read whole from its line, as is the justification behind it, if no backslash protects
a mark in the formula that would end its span. -/
theorem readLine_quoted (named : NameText written.toList name.toList) (played : IsWord role.toList)
    (given : formula ≠ "") (trimmed : trim formula.toList = formula.toList)
    (closed : Terminated formula.toList) (nested : Nested formula.toList)
    (enclosed : CommasEnclosed formula.toList) (unescaped : Unescaped .outside formula.toList)
    (justified : justification ≠ "") (spare : trim justification.toList = justification.toList) :
    readLine (language.tag ++ "(" ++ written ++ ", " ++ role ++ ", " ++ formula ++ ", " ++
        justification ++ ").") =
      .ok (some { language, name, role, formula, justification }) :=
  readLine_fields named played given trimmed justified spare
    (Formula.endsOutside_of_nested unescaped closed nested)
    (Formula.unparted_of_commasEnclosed unescaped nested enclosed)

/-- A comma in a span or in brackets belongs to the formula. -/
theorem readLine_quoted_application :
    readLine "fof(n, axiom, p(X,'it, is'), file(f))." =
      .ok (some ⟨.fof, "n", "axiom", "p(X,'it, is')", "file(f)"⟩) :=
  @readLine_quoted .fof "n" "n" "axiom" "p(X,'it, is')" "file(f)" (.plain (by decide)) (by decide)
    (by decide) (by decide) (by decide) (by decide) (by decide) (by decide) (by decide) (by decide)

/-- Where a backslash protects a mark, the formula is not found to end, and the line is rejected. -/
theorem readLine_escaped :
    Terminated "p('it\\'s')".toList ∧ Nested "p('it\\'s')".toList ∧
      CommasEnclosed "p('it\\'s')".toList ∧
      readLine "fof(n, axiom, p('it\\'s'), file(f))." =
        .error (.malformedLine "fof(n, axiom, p('it\\'s'), file(f)).") := by
  decide +kernel

end Clause

end Retrace
