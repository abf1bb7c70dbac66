import Retrace.Proofs.Text.Runs

/-! Texts without blanks: trimming leaves them alone, and they are the words of their line. -/

namespace Retrace.Text

/-- A text that has no blanks at its ends is trimmed. -/
theorem trim_eq_self_of_ends {text : List Char} (front : ∀ c ∈ text.head?, isBlank c = false)
    (back : ∀ c ∈ text.getLast?, isBlank c = false) : trim text = text := by
  have start : text.dropWhile isBlank = text :=
    (takeWhile_dropWhile_iff.mpr ⟨(List.nil_append text).symm, by simp, front⟩).2
  have ending : trimEnd text = text :=
    trimEnd_eq_iff.mpr ⟨⟨[], by simp [AllBlank], by simp⟩, back⟩
  rw [trim, start, ending]

/-- A text without blanks has none at its ends either. -/
theorem trim_eq_self {text : List Char} (filled : ∀ c ∈ text, isBlank c = false) :
    trim text = text :=
  trim_eq_self_of_ends (fun c first => filled c (List.mem_of_head? first))
    fun c last => filled c (List.mem_of_getLast? last)

/-- What stands before the first blank is part of the first piece. -/
theorem cutAtBlanks_append {word rest piece : List Char} {pieces : List (List Char)}
    (filled : ∀ c ∈ word, isBlank c = false) (cut : cutAtBlanks rest = piece :: pieces) :
    cutAtBlanks (word ++ rest) = (word ++ piece) :: pieces := by
  -- Each character joins the piece that follows it.
  induction word with
  | nil => exact cut
  | cons c word ih =>
    have later := ih fun d member => filled d (List.mem_cons_of_mem _ member)
    have first := filled c List.mem_cons_self
    simp [cutAtBlanks, first, later, consFirst]

/-- Texts without blanks are the pieces of the line that parts them by spaces. -/
theorem cutAtBlanks_spaced {first : List Char} {others : List (List Char)}
    (filled : ∀ word ∈ first :: others, ∀ c ∈ word, isBlank c = false) :
    cutAtBlanks (first ++ others.flatMap (' ' :: ·)) = first :: others := by
  -- Each space starts a new piece.
  induction others generalizing first with
  | nil =>
    have alone : cutAtBlanks (first ++ []) = [first ++ []] :=
      cutAtBlanks_append (filled first List.mem_cons_self) rfl
    simpa using alone
  | cons second others ih =>
    -- The words behind the first are cut as they would be alone.
    have later := ih fun word member => filled word (List.mem_cons_of_mem _ member)
    have space : cutAtBlanks (' ' :: (second ++ others.flatMap (' ' :: ·))) =
        [] :: second :: others := by
      rw [cutAtBlanks, later]
      rfl
    have whole := cutAtBlanks_append (filled first List.mem_cons_self) space
    simpa using whole

/-- Words without blanks are the words of the line that parts them by spaces. -/
theorem words_spaced {first : List Char} {others : List (List Char)}
    (filled : ∀ word ∈ first :: others, ∀ c ∈ word, isBlank c = false)
    (nonempty : ∀ word ∈ first :: others, word ≠ []) :
    words (first ++ others.flatMap (' ' :: ·)) = first :: others := by
  -- No piece is left out for being empty.
  rw [words, cutAtBlanks_spaced filled]
  refine List.filter_eq_self.mpr fun word member => ?_
  simpa using nonempty word member

/-- Pieces joined by a character: it stands before each piece but the first. -/
theorem intercalate_char (c : Char) (first : List Char) (others : List (List Char)) :
    [c].intercalate (first :: others) = first ++ others.flatMap (c :: ·) := by
  induction others generalizing first with
  | nil => simp
  | cons second others ih => simp [List.intercalate_cons_cons, ih]

end Retrace.Text
