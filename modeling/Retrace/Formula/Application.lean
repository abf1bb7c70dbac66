import Retrace.Formula.Nesting
import Retrace.Text.Blank

/-!
Applications made curried: `f(a,g(b))` becomes `(f a (g b))`. The commas that are left over stand
between the variables of a quantifier and become spaces.
-/

namespace Retrace.Formula

open Retrace.Text (trim)

/-- A symbol character is an ASCII letter or digit, an underscore or a dollar sign. -/
def isSymbolChar (c : Char) : Bool :=
  c.isAlphanum || c == '_' || c == '$'

/-- An application as it stands in a text: its head, its arguments, and the text that follows. -/
structure Application where
  head : List Char
  arguments : List (List Char)
  rest : List Char

/-- The arguments between the parentheses of an application: the pieces between its commas, trimmed,
without the empty ones. -/
def argumentsOf (inner : List Char) : List (List Char) :=
  ((cutAtCommas {} inner).map trim).filter (! ·.isEmpty)

/-- The application that the text starts with: a run of symbol characters, the first a small letter,
directly followed by a parenthesis that is closed. -/
def application? (text : List Char) : Option Application :=
  match text with
  | c :: _ =>
    if c.isLower then
      match text.dropWhile isSymbolChar with
      | '(' :: group =>
        (splitGroup none 0 group).map fun (inner, rest) =>
          ⟨text.takeWhile isSymbolChar, argumentsOf inner, rest⟩
      | _ => none
    else none
  | [] => none

/-- The arguments of an application and what follows it are shorter than the text it starts. -/
theorem application?_shorter {text : List Char} {found : Application}
    (starts : application? text = some found) :
    (∀ argument ∈ found.arguments, argument.length < text.length) ∧
      found.rest.length < text.length := by
  unfold application? at starts
  split at starts
  · split at starts
    · split at starts
      · rename_i c tail _ _ group opened
        obtain ⟨⟨inner, rest⟩, split, rfl⟩ := Option.map_eq_some_iff.mp starts
        -- The group behind the opening parenthesis is a proper suffix of the text.
        have suffix : ('(' :: group).length ≤ (c :: tail).length :=
          opened ▸ (List.dropWhile_sublist isSymbolChar).length_le
        have whole := congrArg List.length (splitGroup_append split)
        simp only [List.length_cons, List.length_append] at suffix whole
        refine ⟨fun argument member => ?_, by simp only [List.length_cons]; omega⟩
        -- An argument is a trimmed piece of what the parentheses enclose.
        obtain ⟨⟨piece, cut, rfl⟩, -⟩ : (∃ piece, piece ∈ cutAtCommas {} inner ∧
            trim piece = argument) ∧ _ := by
          simpa [argumentsOf] using member
        have trimmed := Text.length_trim_le piece
        have bounded := length_le_of_mem_cutAtCommas cut
        simp only [List.length_cons]
        omega
      · simp at starts
    · simp at starts
  · simp at starts

/-- The text with its applications curried. `inSymbol` tells whether the character just before the
text is a symbol character, for an application starts only where a symbol starts. -/
def curryFrom (quoting : Quoting) (inSymbol : Bool) (text : List Char) : List Char :=
  match text with
  | [] => []
  | c :: rest =>
    if quoting.covers c then c :: curryFrom (quoting.next c) false rest
    else
      match _found : if inSymbol then none else application? (c :: rest) with
      | some application =>
        -- The arguments are read anew, each as a text of its own.
        '(' :: application.head ++
          (application.arguments.attach.flatMap fun argument =>
            ' ' :: curryFrom .outside false argument.1) ++
          ')' :: curryFrom .outside false application.rest
      -- The letters of a symbol that is not applied follow one by one.
      | none => c :: curryFrom .outside (isSymbolChar c) rest
termination_by text.length
decreasing_by
  all_goals simp_wf
  · split at _found
    · simp at _found
    · simpa using (application?_shorter _found).1 _ argument.2
  · split at _found
    · simp at _found
    · simpa using (application?_shorter _found).2

/-- The text with a space for every comma outside quoted spans. -/
def spaceCommas (quoting : Quoting) : List Char → List Char
  | [] => []
  | c :: rest =>
    (if c = ',' ∧ ¬ quoting.covers c then ' ' else c) :: spaceCommas (quoting.next c) rest

/-- The text with its applications curried and no comma left outside quoted spans. -/
def curryApplications (text : List Char) : List Char :=
  spaceCommas .outside (curryFrom .outside false text)

end Retrace.Formula
