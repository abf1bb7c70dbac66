import Retrace.Formula.Quoting
import Retrace.Text.Blank

/-!
Connectives, constants and binders in their HOL form: `=>` becomes `-->`, and a binder `![X,Y]:`
whose commas are spaces already becomes `! X Y .`.
-/

namespace Retrace.Formula

open Retrace.Text (after? isBlank words)

/-- Each symbol with its HOL form. No symbol begins another, so their order is free. -/
def symbolForms : List (List Char × List Char) :=
  [("$false".toList, "False".toList),
   ("$true".toList, "True".toList),
   ("<=>".toList, "=".toList),
   ("=>".toList, "-->".toList),
   ("!=".toList, "~=".toList)]

/-- The HOL form of the symbol that a text starts with, and what follows the symbol. -/
def symbol? (text : List Char) : Option (List Char × List Char) :=
  symbolForms.findSome? fun (symbol, form) => (after? symbol text).map fun rest => (form, rest)

/-- The HOL form of the binder that a text starts with, and what follows the binder: a quantifier,
variables between square brackets and a colon, with blanks allowed between them. -/
def binder? : List Char → Option (List Char × List Char)
  | [] => none
  | c :: text =>
    if c = '!' ∨ c = '?' then
      -- The list of variables ends at the first bracket that closes, wherever that stands.
      match text.dropWhile isBlank with
      | '[' :: inner =>
        match inner.dropWhile (· != ']') with
        | ']' :: behind =>
          match behind.dropWhile isBlank with
          | ':' :: rest =>
            let names := words (inner.takeWhile (· != ']'))
            some ([c, ' '] ++ [' '].intercalate names ++ [' ', '.'], rest)
          | _ => none
        | _ => none
      | _ => none
    else none

/-- The HOL form of whatever symbol or binder a text starts with, and what follows it. -/
def form? (text : List Char) : Option (List Char × List Char) :=
  (symbol? text).or (binder? text)

/-- What follows a symbol or binder is shorter than the text it starts. -/
theorem form?_shorter {text form rest : List Char} (found : form? text = some (form, rest)) :
    rest.length < text.length := by
  rcases Option.or_eq_some_iff.mp found with symbol | ⟨-, binder⟩
  · -- Every symbol of the table has at least two characters.
    obtain ⟨⟨pattern, shown⟩, member, begins⟩ := List.exists_of_findSome?_eq_some symbol
    obtain ⟨begins, -⟩ : after? pattern text = some rest ∧ shown = form := by simpa using begins
    have counted := Text.length_of_after? begins
    have nonempty : 0 < pattern.length := by
      simp only [symbolForms, List.mem_cons, Prod.mk.injEq, List.not_mem_nil, or_false] at member
      rcases member with ⟨rfl, -⟩ | ⟨rfl, -⟩ | ⟨rfl, -⟩ | ⟨rfl, -⟩ | ⟨rfl, -⟩ <;> decide
    omega
  · -- A binder loses at least its quantifier, its brackets and its colon.
    cases text with
    | nil => simp [binder?] at binder
    | cons c text =>
      rw [binder?] at binder
      split at binder
      · split at binder
        · rename_i inner opened
          split at binder
          · rename_i behind closed
            split at binder
            · rename_i tail colon
              obtain ⟨-, rfl⟩ : _ ∧ tail = rest := by simpa using binder
              have first := (List.dropWhile_sublist isBlank (l := text)).length_le
              have second := (List.dropWhile_sublist (· != ']') (l := inner)).length_le
              have third := (List.dropWhile_sublist isBlank (l := behind)).length_le
              rw [opened] at first
              rw [closed] at second
              rw [colon] at third
              simp only [List.length_cons] at first second third ⊢
              omega
            · simp at binder
          · simp at binder
        · simp at binder
      · simp at binder

/-- The text with its symbols and binders in HOL form. -/
def substituteFrom (quoting : Quoting) (text : List Char) : List Char :=
  match text with
  | [] => []
  | c :: rest =>
    if quoting.covers c then c :: substituteFrom (quoting.next c) rest
    else
      match _found : form? (c :: rest) with
      | some (form, behind) => form ++ substituteFrom .outside behind
      | none => c :: substituteFrom .outside rest
termination_by text.length
decreasing_by
  all_goals simp_wf
  simpa using form?_shorter _found

/-- The text with every symbol and binder outside quoted spans in HOL form. -/
def substituteSymbols (text : List Char) : List Char :=
  substituteFrom .outside text

end Retrace.Formula
