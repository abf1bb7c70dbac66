import Retrace.Proofs.Clause.Grammar
import Retrace.Proofs.Justification.Grammar

/-!
Items written as fields: each with layout on both sides, and with a comma before every field but the
first. The grammar of justifications keeps layout apart from the items it stands before; here it
belongs to the field, so that lists can be put together field by field.
-/

namespace Retrace.Justification

open Text (AllLayout)

/-- A field is a text with layout on both sides. -/
inductive Padded : List Char → List Char → Prop
  | around {before body after : List Char} (front : AllLayout before) (back : AllLayout after) :
      Padded (before ++ (body ++ after)) body

/-- A text of further items, each behind a comma, and layout behind them. -/
def Continues (text : List Char) (items : List Term) : Prop :=
  ∃ front layout, MoreText front items ∧ AllLayout layout ∧ text = front ++ layout

variable {text field body rest layout name : List Char} {item : Term} {items : List Term}

/-- A text is a field of its own. -/
theorem Padded.self (body : List Char) : Padded body body := by
  simpa using @Padded.around [] body [] (by simp [AllLayout]) (by simp [AllLayout])

/-- Layout in a row is layout. -/
theorem allLayout_append {first second : List Char} (front : AllLayout first)
    (back : AllLayout second) : AllLayout (first ++ second) := by
  intro c member
  exact (List.mem_append.mp member).elim (front c) (back c)

/-- Nothing continues a list without further items. -/
theorem Continues.nothing : Continues [] [] :=
  ⟨[], [], .nothing, by simp [AllLayout], rfl⟩

/-- Layout may stand in front of what continues a list. -/
theorem Continues.behind (blank : AllLayout layout) (continues : Continues rest items) :
    Continues (layout ++ rest) items := by
  obtain ⟨front, after, derived, back, rfl⟩ := continues
  -- It stands before the first comma, or at the end if there is no comma.
  cases derived with
  | nothing => exact ⟨[], layout ++ after, .nothing, allLayout_append blank back, by simp⟩
  | next parted between derived others =>
    exact ⟨_, after, .next (allLayout_append blank parted) between derived others, back, by simp⟩

/-- A field behind a comma is a further item. -/
theorem Continues.next (padded : Padded field body) (derived : ItemText body item)
    (continues : Continues rest items) : Continues (',' :: (field ++ rest)) (item :: items) := by
  cases padded with
  | @around before _ after front back =>
    obtain ⟨others, layout, more, blank, whole⟩ := continues.behind back
    -- Layout before the comma would belong to the field before it.
    have unparted : AllLayout [] := by simp [AllLayout]
    exact ⟨_, layout, .next unparted front derived more, blank, by simp [whole]⟩

/-- Layout alone denotes no items. -/
theorem Denotes.nothing (blank : AllLayout text) : Denotes text [] :=
  ⟨[], text, .nothing, blank, rfl⟩

/-- A field and what continues it denote the items of both. -/
theorem Denotes.first (padded : Padded field body) (derived : ItemText body item)
    (continues : Continues rest items) : Denotes (field ++ rest) (item :: items) := by
  cases padded with
  | around front back =>
    -- Layout behind the field is taken as layout in front of the comma.
    obtain ⟨others, layout, more, blank, whole⟩ := continues.behind back
    exact ⟨_, layout, .first front derived more, blank, by simp [whole]⟩

/-- A field alone denotes its item. -/
theorem Denotes.single (padded : Padded field body) (derived : ItemText body item) :
    Denotes field [item] := by
  simpa using Denotes.first padded derived .nothing

/-- Items between square brackets are a list. -/
theorem Denotes.bracketed (denotes : Denotes text items) :
    ItemText ('[' :: (text ++ [']'])) (.list items) := by
  obtain ⟨front, layout, derived, blank, rfl⟩ := denotes
  exact .bracketed derived blank

/-- Items between parentheses are the arguments of the symbol in front. -/
theorem Denotes.application (named : IsSymbol name) (denotes : Denotes text items) :
    ItemText (name ++ '(' :: (text ++ [')'])) (.list (.atom (String.ofList name) :: items)) := by
  obtain ⟨front, layout, derived, blank, rfl⟩ := denotes
  exact .application named derived blank

/-- A word may stand in a justification as it is. -/
theorem isSymbol_of_isWord (word : Clause.IsWord name) : IsSymbol name := by
  refine ⟨word.1, fun c member => ?_⟩
  have shown := word.2 c member
  simp_all [Text.isWordChar, isSymbolChar]

/-- A clause name is cited by any of its written forms. -/
theorem itemText_of_nameText {written : List Char} (form : Clause.NameText written name) :
    ItemText written (.atom (String.ofList name)) := by
  cases form with
  | plain word => exact .symbol (isSymbol_of_isWord word)
  | quoted given unquoted => exact .quoted (.inl rfl) unquoted

end Retrace.Justification
