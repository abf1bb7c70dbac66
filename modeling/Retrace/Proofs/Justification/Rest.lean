import Retrace.Justification.Reader

/-!
What the readers of justifications find and leave, without the bounds on the length of what they
leave. The equations here are those of the readers themselves.
-/

namespace Retrace.Justification

open Text (skipLayout)

/-- What a reader has found and what it has left. -/
def outcome {α : Type} {text : List Char} (read : α × Shorter text) : α × List Char :=
  (read.1, read.2.1)

/-- The item that a text has after its layout, and what follows it. -/
def itemAt? (text : List Char) : Option (Term × List Char) :=
  (readItem? text).map outcome

/-- The items up to a closing bracket, and what follows the bracket. -/
def groupAt? (bracket : Char) (text : List Char) : Option (List Term × List Char) :=
  (readGroup? bracket text).map outcome

/-- The items that a text starts with, and what follows the last of them. -/
def itemsAt (text : List Char) : List Term × List Char :=
  ((readItems text).1, (readItems text).2.1)

/-- The items that stand behind commas, and what follows the last of them. -/
def moreAt (text : List Char) : List Term × List Char :=
  ((readMore text).1, (readMore text).2.1)

/-- What follows a sign that the text has after its layout. -/
def signAt? (sign : Char) (text : List Char) : Option (List Char) :=
  (readSign? sign text).map Subtype.val

variable {text : List Char}

/-- A sign is the first character behind the layout. -/
theorem signAt?_eq_some_iff {sign : Char} {rest : List Char} :
    signAt? sign text = some rest ↔ skipLayout text = sign :: rest := by
  unfold signAt? readSign?
  -- Behind the layout there is either nothing or a character to compare.
  split
  · rename_i found
    simp [found]
  · rename_i c tail found
    by_cases same : c = sign
    · simp [same, found]
    · simp [same, found]

/-- An item is a list, a quoted text, a symbol or an application, as its first character has it. -/
theorem itemAt?_eq (text : List Char) :
    itemAt? text = match skipLayout text with
      | [] => none
      | c :: tail =>
        if c = '[' then
          (groupAt? ']' tail).map fun (members, rest) => (.list members, rest)
        else if c = '\x27' ∨ c = '"' then
          (splitAtMark? c tail).map fun (inner, rest) => (.atom (String.ofList inner), rest)
        else if isSymbolChar c then
          let head := Term.atom (String.ofList (c :: tail.takeWhile isSymbolChar))
          let alone := (head, tail.dropWhile isSymbolChar)
          match tail.dropWhile isSymbolChar with
          | '(' :: inner =>
            match groupAt? ')' inner with
            | some (arguments, rest) => some (.list (head :: arguments), rest)
            | none => some alone
          | _ => some alone
        else none := by
  rw [itemAt?, readItem?]
  split
  · rename_i found
    conv => rhs; rw [found]
    rfl
  · rename_i c tail found
    conv => rhs; rw [found]
    -- The kind of the item is decided alike on both sides.
    by_cases bracket : c = '['
    · simp only [if_pos bracket, groupAt?, Option.map_map]
      rfl
    by_cases quote : c = '\x27' ∨ c = '"'
    · simp only [if_neg bracket, if_pos quote, Option.map_map]
      unfold readQuoted?
      split
      · rename_i missing
        conv => rhs; rw [missing]
        rfl
      · rename_i inner rest cut
        conv => rhs; rw [cut]
        rfl
    by_cases symbol : isSymbolChar c = true
    · simp only [if_neg bracket, if_neg quote, if_pos symbol, groupAt?]
      split
      · -- A group that is never closed leaves the symbol alone.
        rename_i inner opened
        cases grouped : readGroup? ')' inner <;> simp [opened, grouped, outcome, Shorter.within]
      · rename_i alone
        split
        · rename_i inner opened
          exact absurd opened (alone inner)
        · rfl
    · simp only [if_neg bracket, if_neg quote, symbol]
      rfl

/-- A group is some items and the bracket behind them. -/
theorem groupAt?_eq (bracket : Char) (text : List Char) :
    groupAt? bracket text =
      (signAt? bracket (itemsAt text).2).map fun rest => ((itemsAt text).1, rest) := by
  rw [groupAt?, readGroup?, signAt?, Option.map_map, Option.map_map]
  rfl

/-- Items are read until there is none. -/
theorem itemsAt_eq (text : List Char) :
    itemsAt text = match itemAt? text with
      | none => ([], text)
      | some (item, rest) => (item :: (moreAt rest).1, (moreAt rest).2) := by
  unfold itemsAt itemAt?
  rw [readItems]
  cases readItem? text <;> rfl

/-- Further items are read as long as there is a comma with an item behind it. -/
theorem moreAt_eq (text : List Char) :
    moreAt text = match signAt? ',' text with
      | none => ([], text)
      | some after =>
        match itemAt? after with
        | none => ([], text)
        | some (item, rest) => (item :: (moreAt rest).1, (moreAt rest).2) := by
  unfold moreAt signAt? itemAt?
  rw [readMore]
  -- A comma without an item behind it is left as well.
  cases readSign? ',' text with
  | none => rfl
  | some after => cases read : readItem? after.1 <;> simp [read, outcome]

/-- A justification is read as the items in it, provided that only layout is left behind them. -/
theorem readAll_eq_ok_itemsAt_iff {items : List Term} :
    readAll text = .ok items ↔ skipLayout (itemsAt text).2 = [] ∧ (itemsAt text).1 = items := by
  unfold readAll itemsAt
  simp only
  -- Whatever is left besides is reported.
  split
  · rename_i nothing
    simp [nothing]
  · rename_i something
    exact iff_of_false (by simp) fun read => something read.1

end Retrace.Justification
