import Mathlib.Data.List.Basic
import Retrace.Text.Blank

/-! Trimming, cutting and joining texts: no character comes in that did not stand in a text before. -/

namespace Retrace.Text

variable {c : Char} {text : List Char}

/-- Trimming adds no character. -/
theorem mem_of_mem_trim (member : c ∈ trim text) : c ∈ text := by
  -- The two ends are taken off one after the other.
  have kept := (List.dropWhile_sublist (l := (text.dropWhile isBlank).reverse) isBlank).subset
    (List.mem_reverse.mp member)
  exact (List.dropWhile_sublist isBlank).subset (List.mem_reverse.mp kept)

/-- The pieces between blanks hold characters of the text only. -/
theorem mem_of_mem_cutAtBlanks {piece : List Char} (cut : piece ∈ cutAtBlanks text)
    (member : c ∈ piece) : c ∈ text := by
  induction text generalizing piece with
  | nil =>
    rw [List.mem_singleton.mp cut] at member
    cases member
  | cons d text ih =>
    -- A blank belongs to no piece, and any other character to the first one.
    rw [cutAtBlanks] at cut
    split at cut
    · rcases List.mem_cons.mp cut with rfl | later
      · cases member
      · exact List.mem_cons_of_mem _ (ih later member)
    · -- The character joins the first of the pieces that follow.
      cases pieces : cutAtBlanks text with
      | nil => simp_all [consFirst]
      | cons first others =>
        rw [pieces, consFirst] at cut
        rcases List.mem_cons.mp cut with rfl | later
        · rcases List.mem_cons.mp member with rfl | inside
          · exact List.mem_cons_self
          · exact List.mem_cons_of_mem _ (ih (pieces ▸ List.mem_cons_self) inside)
        · exact List.mem_cons_of_mem _ (ih (pieces ▸ List.mem_cons_of_mem _ later) member)

/-- A beginning and what follows it make up the text. -/
theorem append_of_after? {pattern rest : List Char} (begins : after? pattern text = some rest) :
    text = pattern ++ rest := by
  -- The beginning is taken off character by character.
  induction pattern generalizing text with
  | nil => simpa [after?] using begins
  | cons p pattern ih =>
    cases text with
    | nil => simp [after?] at begins
    | cons d text =>
      rw [after?] at begins
      split at begins
      · rename_i same
        rw [same, List.cons_append, ← ih begins]
      · cases begins

/-- Pieces that are joined keep what they keep without what stands between them, if nothing of the
separator is kept. -/
theorem filter_intercalate {keep : Char → Bool} {separator : List Char}
    (dropped : separator.filter keep = []) (pieces : List (List Char)) :
    (separator.intercalate pieces).filter keep = pieces.flatten.filter keep := by
  induction pieces with
  | nil => rfl
  | cons piece others ih =>
    -- Only between two pieces is there a separator.
    cases others with
    | nil => simp
    | cons next others =>
      rw [List.intercalate_cons_cons, List.filter_append, List.filter_append, ih, dropped,
        List.append_nil, List.flatten_cons (l := piece), List.filter_append]

/-- Pieces that are joined hold the characters of the joint text, the separator apart. -/
theorem mem_intercalate {c : Char} {separator : List Char} {pieces : List (List Char)}
    (member : c ∈ separator.intercalate pieces) :
    c ∈ separator ∨ ∃ piece ∈ pieces, c ∈ piece := by
  by_cases parted : c ∈ separator
  · exact .inl parted
  · -- Without the separator the character is left in one of the pieces.
    have dropped : separator.filter (· == c) = [] := by
      rw [List.filter_eq_nil_iff]
      rintro d among same
      exact parted (beq_iff_eq.mp same ▸ among)
    have left : c ∈ (separator.intercalate pieces).filter (· == c) := by simpa using member
    rw [filter_intercalate dropped, List.mem_filter, List.mem_flatten] at left
    exact .inr left.1

end Retrace.Text
