import Retrace.Formula
import Retrace.Proofs.Text.Characters
import Retrace.Proofs.Text.Runs

/-!
The parts of a text at which the passes over a formula find something to rewrite: an application, a
symbol or a binder. Each is given with the text that it was found in.
-/

namespace Retrace.Formula

open Text (AllBlank isBlank words)

variable {text form rest : List Char}

/-- An application stands as its head and its group, which is closed at the first parenthesis that
does so, and what follows. -/
theorem of_application? {found : Application} (starts : application? text = some found) :
    ∃ inner, text = found.head ++ '(' :: (inner ++ ')' :: found.rest) ∧
      (∀ c ∈ found.head, isSymbolChar c = true) ∧ found.arguments = argumentsOf inner ∧
      splitGroup none 0 (inner ++ ')' :: found.rest) = some (inner, found.rest) := by
  unfold application? at starts
  split at starts
  · split at starts
    · split at starts
      · -- The head is all symbol characters up to the parenthesis, and the group ends where it is
        -- split.
        rename_i c tail _ _ group opened
        obtain ⟨⟨inner, rest⟩, split, rfl⟩ := Option.map_eq_some_iff.mp starts
        obtain ⟨whole, symbolic, -⟩ := Text.takeWhile_dropWhile_iff.mp ⟨rfl, opened⟩
        have grouped := splitGroup_append split
        subst grouped
        exact ⟨inner, whole, symbolic, rfl, split⟩
      · cases starts
    · cases starts
  · cases starts

/-- A head is a run of symbol characters of which the first is a small letter. -/
def IsHead (head : List Char) : Prop :=
  (∃ c ∈ head.head?, c.isLower = true) ∧ ∀ c ∈ head, isSymbolChar c = true

/-- An application is found where a head stands before a group that is closed. -/
theorem application?_of_isHead {head group inner : List Char} (applied : IsHead head)
    (split : splitGroup none 0 group = some (inner, rest)) :
    application? (head ++ '(' :: group) = some ⟨head, argumentsOf inner, rest⟩ := by
  obtain ⟨⟨c, first, small⟩, symbolic⟩ := applied
  obtain ⟨taken, dropped⟩ := Text.takeWhile_dropWhile_iff.mpr
    ⟨(rfl : head ++ '(' :: group = _), symbolic, by simp [isSymbolChar]⟩
  -- The head is not empty, so that its first letter is that of the text.
  cases head with
  | nil => cases first
  | cons d head =>
    obtain rfl : d = c := by simpa using first
    rw [List.cons_append] at taken dropped ⊢
    simp only [application?, small, dropped, taken, split, if_true, Option.map_some]

/-- The head of an application is one. -/
theorem isHead_of_application? {found : Application} (starts : application? text = some found) :
    IsHead found.head := by
  obtain ⟨inner, whole, symbolic, -, -⟩ := of_application? starts
  refine ⟨?_, symbolic⟩
  -- The text starts with a small letter, which is no parenthesis and belongs to the head.
  cases text with
  | nil => cases starts
  | cons c text =>
    have small : c.isLower = true := by
      cases small : c.isLower with
      | true => rfl
      | false => simp [application?, small] at starts
    -- Without a head the text would start with the parenthesis.
    cases head : found.head with
    | nil =>
      rw [head] at whole
      obtain ⟨rfl, -⟩ := List.cons.inj whole
      cases small
    | cons d others =>
      rw [head] at whole
      obtain ⟨rfl, -⟩ := List.cons.inj whole
      exact ⟨c, rfl, small⟩

/-- A symbol stands before what follows it, beside its form in the table. -/
theorem of_symbol? (found : symbol? text = some (form, rest)) :
    ∃ symbol, (symbol, form) ∈ symbolForms ∧ text = symbol ++ rest := by
  obtain ⟨⟨symbol, shown⟩, member, begins⟩ := List.exists_of_findSome?_eq_some found
  obtain ⟨starts, rfl⟩ : Text.after? symbol text = some rest ∧ shown = form := by simpa using begins
  exact ⟨symbol, member, Text.append_of_after? starts⟩

/-- A binder stands as its quantifier, its variables up to the first closing bracket and a colon, with
blanks between these. Its form has the variables as words. -/
theorem of_binder? (found : binder? text = some (form, rest)) :
    ∃ quantifier front names behind,
      text = quantifier :: (front ++ '[' :: (names ++ ']' :: (behind ++ ':' :: rest))) ∧
      (quantifier = '!' ∨ quantifier = '?') ∧ AllBlank front ∧ ']' ∉ names ∧ AllBlank behind ∧
      form = quantifier :: ' ' :: ([' '].intercalate (words names) ++ [' ', '.']) := by
  cases text with
  | nil => cases found
  | cons c text =>
    -- The parts are looked for one after the other, and none may be missing.
    rw [binder?] at found
    split at found
    · rename_i mark
      split at found
      · rename_i inner opened
        split at found
        · rename_i after closed
          split at found
          · rename_i tail colon
            obtain ⟨rfl, rfl⟩ : [c, ' '] ++ [' '].intercalate (words
                (inner.takeWhile (· != ']'))) ++ [' ', '.'] = form ∧ tail = rest := by
              simpa using found
            -- Each part is a run up to the character that is looked for.
            obtain ⟨first, front, -⟩ := Text.takeWhile_dropWhile_iff.mp ⟨rfl, opened⟩
            obtain ⟨second, names, -⟩ := Text.takeWhile_dropWhile_iff.mp ⟨rfl, closed⟩
            obtain ⟨third, behind, -⟩ := Text.takeWhile_dropWhile_iff.mp ⟨rfl, colon⟩
            refine ⟨c, _, inner.takeWhile (· != ']'), _, ?_, mark, front, fun member => ?_, behind, ?_⟩
            · rw [← third, ← second, ← first]
            · simpa using names _ member
            · simp
          · cases found
        · cases found
      · cases found
    · cases found

end Retrace.Formula
