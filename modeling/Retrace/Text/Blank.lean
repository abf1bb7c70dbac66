/-!
White space, and the ways a text is trimmed and cut at it. Two notions are kept apart: a blank is
any character with the Unicode property White_Space, a layout character is one of the four that may
stand between the tokens of a clause line. Beginnings other than white space are taken off as given.
-/

namespace Retrace.Text

/-- A blank is a character with the Unicode property White_Space. -/
def isBlank (c : Char) : Bool :=
  let code := c.toNat
  (9 ≤ code && code ≤ 13) || code == 0x20 || code == 0x85 || code == 0xA0 || code == 0x1680 ||
    (0x2000 ≤ code && code ≤ 0x200A) || code == 0x2028 || code == 0x2029 || code == 0x202F ||
    code == 0x205F || code == 0x3000

/-- A layout character is a space, a tab, a carriage return or a line feed. -/
def isLayout (c : Char) : Bool :=
  c == ' ' || c == '\t' || c == '\r' || c == '\n'

/-- The text without the layout characters it starts with. -/
def skipLayout (text : List Char) : List Char :=
  text.dropWhile isLayout

/-- Skipping layout never lengthens a text. -/
theorem length_skipLayout_le (text : List Char) : (skipLayout text).length ≤ text.length :=
  (List.dropWhile_sublist isLayout).length_le

/-- The text without the blanks it ends with. -/
def trimEnd (text : List Char) : List Char :=
  (text.reverse.dropWhile isBlank).reverse

/-- The text without the blanks at its two ends. -/
def trim (text : List Char) : List Char :=
  trimEnd (text.dropWhile isBlank)

/-- Trimming the end never lengthens a text. -/
theorem length_trimEnd_le (text : List Char) : (trimEnd text).length ≤ text.length := by
  simpa [trimEnd] using (List.dropWhile_sublist (l := text.reverse) isBlank).length_le

/-- Trimming never lengthens a text. -/
theorem length_trim_le (text : List Char) : (trim text).length ≤ text.length :=
  Nat.le_trans (length_trimEnd_le _) (List.dropWhile_sublist isBlank).length_le

/-- Puts a character in front of the first of several pieces. -/
def consFirst (c : Char) : List (List Char) → List (List Char)
  | [] => [[c]]
  | piece :: pieces => (c :: piece) :: pieces

/-- The pieces between the blanks of a text, empty ones included. -/
def cutAtBlanks : List Char → List (List Char)
  | [] => [[]]
  | c :: rest => if isBlank c then [] :: cutAtBlanks rest else consFirst c (cutAtBlanks rest)

/-- The maximal runs of a text that hold no blank. -/
def words (text : List Char) : List (List Char) :=
  (cutAtBlanks text).filter (! ·.isEmpty)

/-- What follows the given beginning of a text, if the text begins so. -/
def after? : List Char → List Char → Option (List Char)
  | [], text => some text
  | _ :: _, [] => none
  | p :: pattern, c :: text => if p = c then after? pattern text else none

/-- A beginning and what follows it are together as long as the text. -/
theorem length_of_after? {pattern text rest : List Char} (begins : after? pattern text = some rest) :
    pattern.length + rest.length = text.length := by
  induction pattern generalizing text with
  | nil => simp_all [after?]
  | cons p pattern ih =>
    cases text with
    | nil => simp [after?] at begins
    | cons c text =>
      -- The two texts are gone through side by side.
      rw [after?] at begins
      split at begins
      · simp only [List.length_cons, ← ih begins]
        omega
      · simp at begins

end Retrace.Text
