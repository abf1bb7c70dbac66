import Retrace.Formula.Quoting

/-!
Nesting of brackets and plain quotes in a formula. Here a quote is closed by the next quote of its
kind, whatever stands before it; inside quotes no bracket or comma counts.
-/

namespace Retrace.Formula

/-- The quote that is open after one more character, if any. -/
def toggle : Option Char → Char → Option Char
  | some mark, c => if c = mark then none else some mark
  | none, c => if isMark c then some c else none

/-- The open quote, and how many round and square brackets are open. -/
structure Nesting where
  quote : Option Char := none
  depth : Nat := 0
  deriving DecidableEq, Repr

/-- The nesting after one more character. A closing bracket with no partner changes nothing, and
round and square brackets may close each other. -/
def Nesting.next (nesting : Nesting) (c : Char) : Nesting where
  quote := toggle nesting.quote c
  depth :=
    if nesting.quote.isSome then nesting.depth
    else if c = '(' ∨ c = '[' then nesting.depth + 1
    else if c = ')' ∨ c = ']' then nesting.depth - 1
    else nesting.depth

/-- Whether a character read at this nesting is a comma outside all quotes and brackets. -/
def Nesting.separates (nesting : Nesting) (c : Char) : Bool :=
  c == ',' && nesting.quote.isNone && nesting.depth == 0

/-- What stands before and after the first separating comma. -/
def splitAtComma (nesting : Nesting) : List Char → Option (List Char × List Char)
  | [] => none
  | c :: rest =>
    if nesting.separates c then some ([], rest)
    else (splitAtComma (nesting.next c) rest).map fun (before, after) => (c :: before, after)

/-- The pieces between the separating commas. -/
def cutAtCommas (nesting : Nesting) : List Char → List (List Char)
  | [] => [[]]
  | c :: rest =>
    if nesting.separates c then [] :: cutAtCommas nesting rest
    else
      match cutAtCommas (nesting.next c) rest with
      | [] => [[c]]
      | piece :: pieces => (c :: piece) :: pieces

/-- What stands inside and after a round group that has been opened, `depth` further groups being
open inside it. Square brackets do not count. -/
def splitGroup (quote : Option Char) (depth : Nat) : List Char → Option (List Char × List Char)
  | [] => none
  | c :: rest =>
    if quote.isNone ∧ c = ')' ∧ depth = 0 then some ([], rest)
    else
      let deeper :=
        if quote.isSome then depth
        else if c = '(' then depth + 1
        else if c = ')' then depth - 1
        else depth
      (splitGroup (toggle quote c) deeper rest).map fun (inner, after) => (c :: inner, after)

/-- A group and what follows it, with the closing parenthesis between them, make up the text. -/
theorem splitGroup_append {quote : Option Char} {depth : Nat} {text inner after : List Char}
    (split : splitGroup quote depth text = some (inner, after)) :
    text = inner ++ ')' :: after := by
  induction text generalizing quote depth inner with
  | nil => simp [splitGroup] at split
  | cons c rest ih =>
    rw [splitGroup] at split
    -- The parenthesis that closes the group ends it, and all other characters belong to it.
    split at split
    · rename_i closes
      obtain ⟨rfl, rfl⟩ : [] = inner ∧ rest = after := by simpa using split
      simp [closes.2.1]
    · obtain ⟨⟨before, behind⟩, found, same⟩ := Option.map_eq_some_iff.mp split
      obtain ⟨rfl, rfl⟩ : c :: before = inner ∧ behind = after := by simpa using same
      simp [← ih found]

/-- No piece is longer than the text it is cut from. -/
theorem length_le_of_mem_cutAtCommas {nesting : Nesting} {text piece : List Char}
    (found : piece ∈ cutAtCommas nesting text) : piece.length ≤ text.length := by
  induction text generalizing nesting piece with
  | nil => simp_all [cutAtCommas]
  | cons c rest ih =>
    -- A comma that parts starts a piece, and any other character is put in front of the first piece
    -- of the rest.
    rw [cutAtCommas] at found
    split at found
    · rcases List.mem_cons.mp found with rfl | later
      · simp
      · exact Nat.le_succ_of_le (ih later)
    · split at found
      · simp_all
      · rename_i first others cut
        rcases List.mem_cons.mp found with rfl | later
        · have bounded : first.length ≤ rest.length := ih (cut ▸ List.mem_cons_self)
          simpa using bounded
        · exact Nat.le_succ_of_le (ih (cut ▸ List.mem_cons_of_mem _ later))

end Retrace.Formula
