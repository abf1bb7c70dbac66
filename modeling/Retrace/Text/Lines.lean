/-!
The lines of a text. The same cut serves texts of characters and of bytes, so the two line ends are
parameters.
-/

namespace Retrace.Text

variable {α : Type} [DecidableEq α]

/-- The lines of a text: it is cut at every `feed`, one `ret` directly before a `feed` belongs to
the line end, and what follows the last `feed` is a line only if it is not empty. -/
def lines (feed ret : α) : List α → List (List α)
  | [] => []
  | c :: rest =>
    if c = feed then [] :: lines feed ret rest
    else if c = ret ∧ rest.head? = some feed then lines feed ret rest
    else
      match lines feed ret rest with
      | [] => [[c]]
      | line :: others => (c :: line) :: others

/-- The lines of a text of characters. -/
def charLines (text : List Char) : List (List Char) :=
  lines '\n' '\r' text

/-- The lines of a text of bytes. -/
def byteLines (content : List UInt8) : List (List UInt8) :=
  lines 10 13 content

/-- No line holds a line feed. -/
theorem feed_notMem_of_mem_lines {feed ret : α} {text line : List α}
    (found : line ∈ lines feed ret text) : feed ∉ line := by
  -- A line grows by one element at a time, and only by an element that is not the feed.
  induction text generalizing line with
  | nil => simp [lines] at found
  | cons c rest ih =>
    simp only [lines] at found
    split at found
    · rcases List.mem_cons.mp found with rfl | later
      · simp
      · exact ih later
    · rename_i other
      split at found
      · exact ih found
      · split at found
        · rw [List.mem_singleton.mp found]
          simpa using Ne.symm other
        · -- The element is put in front of the first line of the rest.
          rename_i first others cut
          rcases List.mem_cons.mp found with rfl | later
          · have clean : feed ∉ first := ih (by simp [cut])
            simp only [List.mem_cons, not_or]
            exact ⟨Ne.symm other, clean⟩
          · exact ih (by simp [cut, later])

end Retrace.Text
