import Mathlib.Data.List.Basic
import Retrace.Text.Lines

/-!
The lines of a text, told without the function that finds them: a text falls into lines in one way
only, and the function finds these lines.
-/

namespace Retrace.Text

variable {α : Type} {feed ret c : α} {text line rest : List α} {others : List (List α)}

/-- The lines that a text falls into. A line is ended by `feed`, or by `ret` and `feed`, and then it
is what stands before both. What follows the last `feed` is a line unless it is empty. -/
inductive Cut (feed ret : α) : List α → List (List α) → Prop
  | nil : Cut feed ret [] []
  | last {line : List α} (nonempty : line ≠ []) (whole : feed ∉ line) : Cut feed ret line [line]
  | fed {line rest : List α} {others : List (List α)} (whole : feed ∉ line)
      (plain : line.getLast? ≠ some ret) (cut : Cut feed ret rest others) :
      Cut feed ret (line ++ feed :: rest) (line :: others)
  | returned {line rest : List α} {others : List (List α)} (whole : feed ∉ line)
      (cut : Cut feed ret rest others) :
      Cut feed ret (line ++ ret :: feed :: rest) (line :: others)

/-- Every text falls into lines. -/
theorem exists_cut (feed ret : α) (text : List α) : ∃ pieces, Cut feed ret text pieces := by
  -- What follows the first line is shorter than the text.
  induction size : text.length using Nat.strongRecOn generalizing text with
  | _ size ih =>
    by_cases fed : feed ∈ text
    · obtain ⟨line, rest, rfl, whole⟩ := List.eq_append_cons_of_mem fed
      obtain ⟨others, cut⟩ := ih rest.length (by simp at size; omega) rest rfl
      by_cases ended : line.getLast? = some ret
      · -- The `ret` before the `feed` belongs to the line end.
        obtain ⟨front, rfl⟩ := List.getLast?_eq_some_iff.mp ended
        have clean : feed ∉ front := fun member => whole (List.mem_append_left _ member)
        exact ⟨_, by simpa using Cut.returned clean cut⟩
      · exact ⟨_, .fed whole ended cut⟩
    · by_cases empty : text = []
      · exact ⟨[], empty ▸ .nil⟩
      · exact ⟨[text], .last empty fed⟩

variable [DecidableEq α]

/-- Something that starts no line end joins the line behind it. -/
theorem lines_cons (other : c ≠ feed) (inner : ¬ (c = ret ∧ rest.head? = some feed))
    (cut : lines feed ret rest = line :: others) :
    lines feed ret (c :: rest) = (c :: line) :: others := by
  rw [lines, if_neg other, if_neg inner, cut]

/-- A line is cut off at the `feed` behind it, unless it ends with `ret`. -/
theorem lines_fed (whole : feed ∉ line) (plain : line.getLast? ≠ some ret) (rest : List α) :
    lines feed ret (line ++ feed :: rest) = line :: lines feed ret rest := by
  induction line with
  | nil => simp [lines]
  | cons c line ih =>
    obtain ⟨other, whole⟩ : feed ≠ c ∧ feed ∉ line := by simpa using whole
    -- What is left of the line ends as the line does.
    have behind : line.getLast? ≠ some ret := by
      cases line with
      | nil => simp
      | cons d line => simpa using plain
    refine lines_cons (Ne.symm other) ?_ (ih whole behind)
    -- A `ret` inside the line is not followed by a `feed`.
    rintro ⟨rfl, next⟩
    cases line with
    | nil => simp at plain
    | cons d line => simp_all

/-- A line is cut off at the `ret` and `feed` behind it. -/
theorem lines_returned (apart : ret ≠ feed) (whole : feed ∉ line) (rest : List α) :
    lines feed ret (line ++ ret :: feed :: rest) = line :: lines feed ret rest := by
  induction line with
  | nil => simp [lines, apart]
  | cons c line ih =>
    obtain ⟨other, whole⟩ : feed ≠ c ∧ feed ∉ line := by simpa using whole
    refine lines_cons (Ne.symm other) ?_ (ih whole)
    -- Neither the line nor the `ret` behind it starts with a `feed`.
    rintro ⟨-, next⟩
    cases line with
    | nil => exact apart (by simpa using next)
    | cons d line => simp_all

/-- What has no `feed` is one line. -/
theorem lines_last (nonempty : line ≠ []) (whole : feed ∉ line) : lines feed ret line = [line] := by
  induction line with
  | nil => exact absurd rfl nonempty
  | cons c line ih =>
    obtain ⟨other, whole⟩ : feed ≠ c ∧ feed ∉ line := by simpa using whole
    -- No `feed` stands behind a `ret`, for there is none at all.
    have inner : ¬ (c = ret ∧ line.head? = some feed) := fun both =>
      whole (List.mem_of_mem_head? both.2)
    cases line with
    | nil => simp [lines, Ne.symm other]
    | cons d line => exact lines_cons (Ne.symm other) inner (ih (by simp) whole)

/-- The lines that a text falls into are those that are found. -/
theorem Cut.eq_lines (apart : ret ≠ feed) {pieces : List (List α)} (cut : Cut feed ret text pieces) :
    lines feed ret text = pieces := by
  -- Each way to end a line is one that is found.
  induction cut with
  | nil => rfl
  | last nonempty whole => exact lines_last nonempty whole
  | fed whole plain _ ih => rw [lines_fed whole plain, ih]
  | returned whole _ ih => rw [lines_returned apart whole, ih]

/-- A text falls into the lines that are found. -/
theorem cut_lines (apart : ret ≠ feed) (text : List α) : Cut feed ret text (lines feed ret text) := by
  obtain ⟨pieces, cut⟩ := exists_cut feed ret text
  rwa [cut.eq_lines apart]

-- One `ret` belongs to a line end, and at the end of the text it belongs to the last line.
example : lines 10 13 [97, 13, 13, 10, 10, 98, 13] = [[97, 13], [], [98, 13]] := by decide

end Retrace.Text
