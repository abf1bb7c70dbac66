import Retrace.Fault
import Retrace.Justification
import Retrace.Text.Blank
import Retrace.Text.Letter
import Retrace.Text.Quoted

/-!
Reading justifications. Items are separated by commas, and layout may stand in front of every item,
comma and closing bracket. Reading takes as many items as it can: a comma that no item follows is
left unread, and so is the parenthesis of an application whose arguments cannot be read to the end.
-/

namespace Retrace.Justification

open Retrace.Text (skipLayout isAlphanumeric)

/-- A symbol character may stand in a name that is not quoted. -/
def isSymbolChar (c : Char) : Bool :=
  isAlphanumeric c || c == '_' || c == '$' || c == '.' || c == '-' || c == '+'

/-- What is left of a text after a part that is not empty. -/
abbrev Shorter (text : List Char) : Type :=
  { rest : List Char // rest.length < text.length }

/-- What is left of a text after a part that may be empty. -/
abbrev NotLonger (text : List Char) : Type :=
  { rest : List Char // rest.length ≤ text.length }

/-- The text up to a mark and what follows the mark, if there is one. -/
def splitAtMark? (mark : Char) : List Char → Option (List Char × List Char)
  | [] => none
  | c :: rest =>
    if c = mark then some ([], rest)
    else (splitAtMark? mark rest).map fun (before, after) => (c :: before, after)

/-- What stands before a mark, the mark and what follows it make up the text. -/
theorem splitAtMark?_append {mark : Char} {text before after : List Char}
    (split : splitAtMark? mark text = some (before, after)) : text = before ++ mark :: after := by
  induction text generalizing before with
  | nil => simp [splitAtMark?] at split
  | cons c rest ih =>
    rw [splitAtMark?] at split
    -- The text is parted at its first mark, and all other characters stand before it.
    split at split
    · rename_i same
      obtain ⟨rfl, rfl⟩ : [] = before ∧ rest = after := by simpa using split
      simp [same]
    · obtain ⟨⟨first, behind⟩, found, same⟩ := Option.map_eq_some_iff.mp split
      obtain ⟨rfl, rfl⟩ : c :: first = before ∧ behind = after := by simpa using same
      simp [← ih found]

/-- What is shorter than a text is shorter than any text that is not shorter than it. -/
def Shorter.within {text longer : List Char} (rest : Shorter text)
    (bound : text.length ≤ longer.length) : Shorter longer :=
  ⟨rest.1, Nat.lt_of_lt_of_le rest.2 bound⟩

/-- What follows a sign that the text has after its layout. -/
def readSign? (sign : Char) (text : List Char) : Option (Shorter text) :=
  match found : skipLayout text with
  | [] => none
  | c :: rest =>
    if c = sign then
      some ⟨rest, by
        have skipped := Text.length_skipLayout_le text
        rw [found, List.length_cons] at skipped
        omega⟩
    else none

/-- The text up to the given mark as an atom, and what follows the mark. -/
def readQuoted? (mark : Char) (text : List Char) : Option (Term × Shorter text) :=
  match found : splitAtMark? mark text with
  | none => none
  | some (inner, rest) =>
    some (.atom (String.ofList inner), ⟨rest, by
      have whole := congrArg List.length (splitAtMark?_append found)
      simp only [List.length_append, List.length_cons] at whole
      omega⟩)

mutual

/-- The item that a text has after its layout: a list between square brackets, a text between quotes,
a symbol, or a symbol applied to arguments between parentheses. -/
def readItem? (text : List Char) : Option (Term × Shorter text) :=
  match found : skipLayout text with
  | [] => none
  | c :: tail =>
    have shorter : tail.length < text.length := by
      have skipped := Text.length_skipLayout_le text
      rw [found, List.length_cons] at skipped
      omega
    if c = '[' then
      (readGroup? ']' tail).map fun (items, rest) =>
        (.list items, rest.within (Nat.le_of_lt shorter))
    else if c = '\x27' ∨ c = '"' then
      (readQuoted? c tail).map fun (atom, rest) => (atom, rest.within (Nat.le_of_lt shorter))
    else if isSymbolChar c then
      let head := Term.atom (String.ofList (c :: tail.takeWhile isSymbolChar))
      have bound : (tail.dropWhile isSymbolChar).length ≤ tail.length :=
        (List.dropWhile_sublist isSymbolChar).length_le
      let alone := (head, ⟨tail.dropWhile isSymbolChar, Nat.lt_of_le_of_lt bound shorter⟩)
      match opened : tail.dropWhile isSymbolChar with
      | '(' :: inner =>
        -- Where the arguments cannot be read to the end, the head stands alone.
        have smaller : inner.length < text.length := by
          rw [opened, List.length_cons] at bound
          omega
        match readGroup? ')' inner with
        | some (arguments, rest) =>
          some (.list (head :: arguments), rest.within (Nat.le_of_lt smaller))
        | none => some alone
      | _ => some alone
    else none
termination_by 3 * text.length

/-- The items up to a closing bracket, and what follows the bracket. -/
def readGroup? (bracket : Char) (text : List Char) : Option (List Term × Shorter text) :=
  let (items, behind) := readItems text
  (readSign? bracket behind.1).map fun rest => (items, rest.within behind.2)
termination_by 3 * text.length + 2

/-- The items that a text starts with, and what follows the last of them. -/
def readItems (text : List Char) : List Term × NotLonger text :=
  match readItem? text with
  | none => ([], ⟨text, Nat.le_refl _⟩)
  | some (item, behind) =>
    have shorter := behind.2
    let (items, rest) := readMore behind.1
    (item :: items, ⟨rest.1, Nat.le_trans rest.2 (Nat.le_of_lt shorter)⟩)
termination_by 3 * text.length + 1

/-- The items that stand behind commas, and what follows the last of them. -/
def readMore (text : List Char) : List Term × NotLonger text :=
  match readSign? ',' text with
  | none => ([], ⟨text, Nat.le_refl _⟩)
  | some after =>
    have smaller := after.2
    match readItem? after.1 with
    -- A comma that no item follows is not taken either.
    | none => ([], ⟨text, Nat.le_refl _⟩)
    | some (item, behind) =>
      have shorter := behind.2
      let (items, rest) := readMore behind.1
      (item :: items, ⟨rest.1, by
        have bound := rest.2
        omega⟩)
termination_by 3 * text.length + 1

end

/-- The items of a whole justification. What cannot be read is reported from its first character
that is not layout. -/
def readAll (text : List Char) : Except Problem (List Term) :=
  let (items, behind) := readItems text
  match skipLayout behind.1 with
  | [] => .ok items
  | rest => .error (.unread (String.ofList rest))

/-- The sentence that reports a problem. -/
def Problem.message : Problem → String
  | unread rest =>
    "Error(Error \x7b input: " ++ String.ofList (Text.quoted rest.toList) ++ ", code: Eof \x7d)"
  | noParents => "inference term without a parent list"

/-- A problem as the fault of the justification that has it. -/
def Problem.fault (justification : String) (problem : Problem) : Fault :=
  .badJustification justification problem.message

/-- The terms of a justification held as a string. -/
def terms (justification : String) : Except Fault (List Term) :=
  (readAll justification.toList).mapError (Problem.fault justification)

/-- The names that a justification cites, each at its first occurrence. -/
def parents (justification : String) : Except Fault (List String) :=
  (readAll justification.toList >>= citations).mapError (Problem.fault justification)

end Retrace.Justification
