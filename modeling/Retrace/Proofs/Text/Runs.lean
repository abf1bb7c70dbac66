import Mathlib.Data.List.TakeWhile
import Retrace.Text.Blank

/-! Runs of characters of one kind, and the layout and the blanks that are taken off a text. -/

namespace Retrace.Text

/-- A text of layout characters only. -/
def AllLayout (text : List Char) : Prop :=
  ∀ c ∈ text, isLayout c = true

instance (text : List Char) : Decidable (AllLayout text) :=
  decidable_of_iff (text.all isLayout = true) List.all_eq_true

/-- A text of blanks only. -/
def AllBlank (text : List Char) : Prop :=
  ∀ c ∈ text, isBlank c = true

/-- There are four layout characters. -/
theorem isLayout_iff {c : Char} :
    isLayout c = true ↔ c = ' ' ∨ c = '\t' ∨ c = '\r' ∨ c = '\n' := by
  simp [isLayout, or_assoc]

variable {test : Char → Bool} {text front rest kept : List Char}

/-- A text falls into a run and what follows it exactly if the run holds accepted characters only
and no further one follows. -/
theorem takeWhile_dropWhile_iff :
    text.takeWhile test = front ∧ text.dropWhile test = rest ↔
      text = front ++ rest ∧ (∀ c ∈ front, test c = true) ∧ ∀ c ∈ rest.head?, test c = false := by
  constructor
  · rintro ⟨rfl, rfl⟩
    refine ⟨List.takeWhile_append_dropWhile.symm, fun c => List.mem_takeWhile_imp, ?_⟩
    -- The run stops at the first character that is not accepted.
    intro c first
    have stops := List.head?_dropWhile_not test text
    rw [Option.mem_def.mp first] at stops
    exact stops
  · rintro ⟨rfl, accepted, stops⟩
    -- The run takes all of the front, and then it meets a character that stops it.
    rw [List.takeWhile_append_of_pos accepted, List.dropWhile_append_of_pos accepted]
    cases rest with
    | nil => simp
    | cons c rest =>
      have last : test c = false := stops c rfl
      simp [last]

/-- What is left behind the layout of a text starts with none. -/
theorem skipLayout_eq_iff :
    skipLayout text = rest ↔
      (∃ layout, AllLayout layout ∧ text = layout ++ rest) ∧ ∀ c ∈ rest.head?, isLayout c = false := by
  constructor
  · rintro rfl
    obtain ⟨whole, layout, shown⟩ := takeWhile_dropWhile_iff.mp ⟨rfl, rfl⟩
    exact ⟨⟨_, layout, whole⟩, shown⟩
  · rintro ⟨⟨layout, accepted, whole⟩, shown⟩
    exact (takeWhile_dropWhile_iff.mpr ⟨whole, accepted, shown⟩).2

/-- Nothing is left behind layout exactly if there is nothing else. -/
theorem skipLayout_eq_nil_iff : skipLayout text = [] ↔ AllLayout text :=
  List.dropWhile_eq_nil_iff

/-- What is left before the blanks at the end of a text ends with none. -/
theorem trimEnd_eq_iff :
    trimEnd text = kept ↔
      (∃ blanks, AllBlank blanks ∧ text = kept ++ blanks) ∧
        ∀ c ∈ kept.getLast?, isBlank c = false := by
  -- The end of a text is the beginning of the reversed text.
  constructor
  · rintro rfl
    obtain ⟨whole, blank, shown⟩ :=
      (@takeWhile_dropWhile_iff isBlank text.reverse _ _).mp ⟨rfl, rfl⟩
    refine ⟨⟨(text.reverse.takeWhile isBlank).reverse, fun c member => ?_, ?_⟩, fun c last => ?_⟩
    · exact blank c (List.mem_reverse.mp member)
    · rw [trimEnd, ← List.reverse_append, ← whole, List.reverse_reverse]
    · exact shown c (by simpa [trimEnd] using last)
  · rintro ⟨⟨blanks, blank, rfl⟩, shown⟩
    have front : ∀ c ∈ blanks.reverse, isBlank c = true :=
      fun c member => blank c (List.mem_reverse.mp member)
    have back : ∀ c ∈ kept.reverse.head?, isBlank c = false := by simpa using shown
    -- Reversed, the blanks are a run in front of the text that is kept.
    have cut := takeWhile_dropWhile_iff.mpr ⟨rfl, front, back⟩
    rw [trimEnd, List.reverse_append, cut.2, List.reverse_reverse]

end Retrace.Text
