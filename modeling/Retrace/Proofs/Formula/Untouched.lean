import Retrace.Proofs.Formula.Parts

/-!
Characters that the passes over a formula leave alone: those that no pass writes, drops or replaces
stand in the HOL form as often and in the same order as in the given formula.
-/

namespace Retrace

namespace Text

variable {keep test : Char → Bool}

/-- What is left of a text behind a run of characters that are not kept keeps the same. -/
theorem filter_dropWhile (dropped : ∀ c, test c = true → keep c = false) (text : List Char) :
    (text.dropWhile test).filter keep = text.filter keep := by
  have run : (text.takeWhile test).filter keep = [] := by
    rw [List.filter_eq_nil_iff]
    intro c member
    simp [dropped c (List.mem_takeWhile_imp member)]
  conv => rhs; rw [← List.takeWhile_append_dropWhile (p := test) (l := text)]
  rw [List.filter_append, run, List.nil_append]

/-- Trimming keeps whatever is no blank. -/
theorem filter_trim (blanks : ∀ c, isBlank c = true → keep c = false) (text : List Char) :
    (trim text).filter keep = text.filter keep := by
  -- The blanks at the end are the first ones of the reversed text.
  rw [trim, trimEnd, List.filter_reverse, filter_dropWhile blanks, List.filter_reverse,
    List.reverse_reverse, filter_dropWhile blanks]

/-- A character put in front of the first piece stands in front of all of them. -/
theorem flatten_consFirst (c : Char) (pieces : List (List Char)) :
    (consFirst c pieces).flatten = c :: pieces.flatten := by
  cases pieces <;> rfl

/-- The pieces between blanks keep whatever is no blank. -/
theorem filter_cutAtBlanks (blanks : ∀ c, isBlank c = true → keep c = false) (text : List Char) :
    (cutAtBlanks text).flatten.filter keep = text.filter keep := by
  induction text with
  | nil => rfl
  | cons c text ih =>
    -- A blank belongs to no piece, and any other character to the first one.
    rw [cutAtBlanks]
    by_cases blank : isBlank c = true
    · simp [blank, blanks c blank, ih]
    · rw [if_neg blank, flatten_consFirst, List.filter_cons, List.filter_cons, ih]

/-- Words joined by spaces keep whatever is no blank. -/
theorem filter_words (blanks : ∀ c, isBlank c = true → keep c = false) (text : List Char) :
    ([' '].intercalate (words text)).filter keep = text.filter keep := by
  have space : [' '].filter keep = [] := by simp [blanks ' ' rfl]
  rw [filter_intercalate space, words, List.flatten_filter_not_isEmpty, filter_cutAtBlanks blanks]

end Text

namespace Formula

open Text (isBlank)

variable {keep : Char → Bool}

section Grouping

variable (opens : keep '(' = false) (closes : keep ')' = false)

include closes in
/-- The ends of scopes are parentheses. -/
theorem filter_closing (scopes : List Nat) : (closing scopes).filter keep = [] := by
  rw [List.filter_eq_nil_iff]
  intro c member
  obtain ⟨_, -, rfl⟩ := List.mem_map.mp member
  simp [closes]

include opens closes in
/-- Grouping keeps everything but parentheses. -/
theorem filter_groupFrom (quoting : Quoting) (depth : Nat) (scopes : List Nat)
    (text : List Char) : (groupFrom quoting depth scopes text).filter keep = text.filter keep := by
  -- The scopes that are still open close at the end of the text.
  induction text generalizing quoting depth scopes with
  | nil => exact filter_closing closes scopes
  | cons c text ih =>
    -- Whatever the character is, it is written, and parentheses may be written around it.
    rw [groupFrom]
    split
    · rw [List.filter_cons, List.filter_cons, ih]
    split
    · simp only [List.filter_cons, ih, opens, Bool.false_eq_true, if_false]
    split
    · rw [List.filter_cons, List.filter_cons, ih]
    split
    · simp only [List.filter_append, List.filter_cons, filter_closing closes, ih,
        List.nil_append]
    · rw [List.filter_cons, List.filter_cons, ih]

end Grouping

section Currying

variable (blanks : ∀ c, isBlank c = true → keep c = false) (comma : keep ',' = false)
  (apart : keep '(' = true → ∀ c, isSymbolChar c = true → keep c = false)

include comma in
/-- The pieces between separating commas keep everything but commas. -/
theorem filter_cutAtCommas (nesting : Nesting) (text : List Char) :
    (cutAtCommas nesting text).flatten.filter keep = text.filter keep := by
  induction text generalizing nesting with
  | nil => rfl
  | cons c text ih =>
    rw [cutAtCommas]
    by_cases separates : nesting.separates c = true
    · obtain rfl : c = ',' := by
        simp only [Nesting.separates, Bool.and_eq_true, beq_iff_eq] at separates
        exact separates.1.1
      simp [separates, comma, ih]
    · -- Any other character joins the first of the pieces behind it.
      rw [if_neg separates, List.filter_cons, ← ih (nesting.next c)]
      cases cutAtCommas (nesting.next c) text <;> simp [List.filter_cons]

include blanks comma in
/-- The arguments of an application keep everything but blanks and commas. -/
theorem filter_argumentsOf (inner : List Char) :
    (argumentsOf inner).flatten.filter keep = inner.filter keep := by
  rw [argumentsOf, List.flatten_filter_not_isEmpty, List.filter_flatten, List.map_map]
  -- Each piece is trimmed, which leaves what is kept of it.
  have trimmed : (List.filter keep ∘ Text.trim) = List.filter keep :=
    funext (Text.filter_trim blanks)
  rw [trimmed, ← List.filter_flatten, filter_cutAtCommas comma]

include blanks comma apart in
/-- An application with its parenthesis in front of its head keeps everything but blanks and commas,
unless both the parenthesis and the head are kept, which change places. -/
theorem filter_application? {text : List Char} {found : Application}
    (starts : application? text = some found) :
    ('(' :: (found.head ++ (found.arguments.flatten ++ ')' :: found.rest))).filter keep =
      text.filter keep := by
  obtain ⟨inner, rfl, symbolic, arguments, -⟩ := of_application? starts
  have group : (found.arguments.flatten ++ ')' :: found.rest).filter keep =
      (inner ++ ')' :: found.rest).filter keep := by
    rw [arguments, List.filter_append, filter_argumentsOf blanks comma, ← List.filter_append]
  cases opens : keep '(' with
  | false => simp [List.filter_cons, List.filter_append (found.head), opens, group]
  | true =>
    -- No character of the head is kept, so that the parenthesis comes first in both.
    have head : found.head.filter keep = [] := by
      rw [List.filter_eq_nil_iff]
      intro c member
      simp [apart opens c (symbolic c member)]
    simp [List.filter_cons, List.filter_append (found.head), opens, head, group]

include blanks comma apart in
/-- Currying keeps everything but blanks and commas, unless parentheses and symbols are both kept. -/
theorem filter_curryFrom (quoting : Quoting) (inSymbol : Bool) (text : List Char) :
    (curryFrom quoting inSymbol text).filter keep = text.filter keep := by
  have space : keep ' ' = false := blanks ' ' rfl
  fun_induction curryFrom quoting inSymbol text with
  | case1 => rfl
  | case2 quoting inSymbol c rest covered ih => rw [List.filter_cons, List.filter_cons, ih]
  | case3 quoting inSymbol c rest uncovered application found arguments ih =>
    have starts : application? (c :: rest) = some application := by
      split at found
      · cases found
      · exact found
    -- Every argument keeps what it is read from.
    have curried : (application.arguments.attach.flatMap fun argument =>
        ' ' :: curryFrom .outside false argument.1).filter keep =
          application.arguments.flatten.filter keep := by
      rw [List.filter_flatMap, List.filter_flatten]
      conv => rhs; rw [← List.attach_map_subtype_val application.arguments]
      rw [List.map_map, ← List.flatMap_def]
      congr 1
      funext argument
      simp [space, arguments argument]
    -- The text that was read keeps the same as its parts do.
    rw [← filter_application? blanks comma apart starts]
    simp only [List.filter_append, List.filter_cons, List.append_assoc, List.cons_append, curried, ih]
  | case4 quoting inSymbol c rest uncovered none ih => rw [List.filter_cons, List.filter_cons, ih]

include blanks comma in
/-- Spaces for commas keep everything but blanks and commas. -/
theorem filter_spaceCommas (quoting : Quoting) (text : List Char) :
    (spaceCommas quoting text).filter keep = text.filter keep := by
  have space : keep ' ' = false := blanks ' ' rfl
  induction text generalizing quoting with
  | nil => rfl
  | cons c text ih =>
    rw [spaceCommas, List.filter_cons, List.filter_cons, ih]
    -- A comma is not kept, whether or not it becomes a space.
    by_cases parts : c = ',' ∧ ¬ quoting.covers c
    · rw [if_pos parts, parts.1, space, comma]
      rfl
    · rw [if_neg parts]

include blanks comma apart in
/-- Both steps together keep as much. -/
theorem filter_curryApplications (text : List Char) :
    (curryApplications text).filter keep = text.filter keep := by
  rw [curryApplications, filter_spaceCommas blanks comma, filter_curryFrom blanks comma apart]

end Currying

/-- The characters that the symbols and their HOL forms are made of, and the marks of a binder. -/
def symbolCharacters : List Char :=
  "$falsetrueFT<=>-!~[]:.".toList

section Substitution

variable (blanks : ∀ c, isBlank c = true → keep c = false)
  (symbols : ∀ c ∈ symbolCharacters, keep c = false)

include symbols in
/-- Neither a symbol nor its form has a character that is kept. -/
theorem filter_symbol? {text form rest : List Char} (found : symbol? text = some (form, rest)) :
    form.filter keep ++ rest.filter keep = text.filter keep := by
  obtain ⟨symbol, member, rfl⟩ := of_symbol? found
  -- There are five symbols to look through.
  have table : ∀ entry ∈ symbolForms, entry.1 ⊆ symbolCharacters ∧ entry.2 ⊆ symbolCharacters := by
    decide
  have dropped (part : List Char) (within : part ⊆ symbolCharacters) : part.filter keep = [] := by
    rw [List.filter_eq_nil_iff]
    intro c among
    simp [symbols c (within among)]
  rw [List.filter_append, dropped form (table _ member).2, dropped symbol (table _ member).1]

include blanks symbols in
/-- A binder keeps its quantifier and the names of its variables. -/
theorem filter_binder? {text form rest : List Char} (found : binder? text = some (form, rest)) :
    form.filter keep ++ rest.filter keep = text.filter keep := by
  obtain ⟨quantifier, front, names, behind, rfl, -, before, -, after, rfl⟩ := of_binder? found
  have mark (c : Char) (among : c ∈ symbolCharacters) : keep c = false := symbols c among
  have space : keep ' ' = false := blanks ' ' rfl
  have dropped (part : List Char) (blank : Text.AllBlank part) : part.filter keep = [] := by
    rw [List.filter_eq_nil_iff]
    intro c member
    simp [blanks c (blank c member)]
  -- Apart from the quantifier and the variables there are only blanks and the marks of a binder.
  cases kept : keep quantifier <;>
    simp [kept, space, mark '[' (by decide), mark ']' (by decide), mark ':' (by decide),
      mark '.' (by decide), dropped front before, dropped behind after, Text.filter_words blanks]

include blanks symbols in
/-- Symbols and binders in HOL form keep everything but blanks and what symbols are made of. -/
theorem filter_substituteFrom (quoting : Quoting) (text : List Char) :
    (substituteFrom quoting text).filter keep = text.filter keep := by
  fun_induction substituteFrom quoting text with
  | case1 => rfl
  | case2 quoting c rest covered ih => rw [List.filter_cons, List.filter_cons, ih]
  | case3 quoting c rest uncovered form behind found ih =>
    -- What is found is a symbol of the table or a binder.
    rw [List.filter_append, ih]
    rcases Option.or_eq_some_iff.mp found with symbol | ⟨-, binder⟩
    · exact filter_symbol? symbols symbol
    · exact filter_binder? blanks symbols binder
  | case4 quoting c rest uncovered none ih => rw [List.filter_cons, List.filter_cons, ih]

end Substitution

/-- Characters that no pass writes, drops or replaces stand in the HOL form of a formula as they
stand in the formula. -/
theorem filter_toHol (blanks : ∀ c, isBlank c = true → keep c = false)
    (touched : ∀ c ∈ ',' :: '(' :: ')' :: symbolCharacters, keep c = false) (text : List Char) :
    (toHol text).filter keep = text.filter keep := by
  have comma : keep ',' = false := touched _ (by simp)
  have opens : keep '(' = false := touched _ (by simp)
  have closes : keep ')' = false := touched _ (by simp)
  -- Parentheses are not kept, so nothing has to be known of symbols.
  have apart (kept : keep '(' = true) : ∀ c, isSymbolChar c = true → keep c = false := by
    rw [opens] at kept
    cases kept
  -- Each of the three passes keeps these characters.
  rw [toHol, substituteSymbols,
    filter_substituteFrom blanks fun c among => touched c (by simp [among]),
    filter_curryApplications blanks comma apart, groupQuantifiers, filter_groupFrom opens closes]

end Formula

end Retrace
