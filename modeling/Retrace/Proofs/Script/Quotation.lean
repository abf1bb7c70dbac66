import Retrace.Proofs.Script.Statement

/-!
Quotations in scripts: formulas and the implications of rules stand between double quotes, and a
double quote in any text of the statement stands on the same line.
-/

namespace Retrace

namespace Statement

/-- How many double quotes a text holds. -/
def doubleQuotes (text : String) : Nat :=
  text.toList.count '"'

/-- Quotations are the statements that put a formula or the implication of a rule between double
quotes. -/
def isQuotation : Statement → Bool
  | premise .. | supposition .. | denial .. | goal _ | inference .. | abbreviation .. | rule .. =>
    true
  | _ => false

/-- Texts in a row hold the double quotes of both. -/
@[simp] theorem doubleQuotes_append (first second : String) :
    doubleQuotes (first ++ second) = doubleQuotes first + doubleQuotes second := by
  simp [doubleQuotes]

/-- The quotes around a text are two more. -/
@[simp] theorem doubleQuotes_inQuotes (text : String) :
    doubleQuotes (inQuotes text) = doubleQuotes text + 2 := by
  have mark : doubleQuotes "\"" = 1 := rfl
  rw [inQuotes, doubleQuotes_append, doubleQuotes_append, mark]
  omega

/-- A text has no double quote to count exactly if it holds none. -/
theorem doubleQuotes_eq_zero_iff {text : String} : doubleQuotes text = 0 ↔ '"' ∉ text.toList :=
  List.count_eq_zero

/-- Joined texts hold a double quote if one of them does. -/
theorem doubleQuotes_join_eq_zero_iff {texts : List String} :
    doubleQuotes (String.join texts) = 0 ↔ ∀ text ∈ texts, '"' ∉ text.toList := by
  simp [doubleQuotes_eq_zero_iff]

/-- Texts that are parted hold their own double quotes, if what stands between them holds none. -/
theorem doubleQuotes_intercalate {separator : String} (outside : '"' ∉ separator.toList)
    (texts : List String) :
    doubleQuotes (separator.intercalate texts) = doubleQuotes (String.join texts) := by
  -- To count a character is to keep it alone, which leaves nothing of the separator.
  have dropped : separator.toList.filter (· == '"') = [] := by
    rw [List.filter_eq_nil_iff]
    rintro c among same
    exact outside (beq_iff_eq.mp same ▸ among)
  rw [doubleQuotes, doubleQuotes, List.count_eq_length_filter, List.count_eq_length_filter,
    String.toList_intercalate, Text.filter_intercalate dropped, String.toList_join,
    List.flatMap_def]

/-- Names that are parted by spaces hold their own double quotes. -/
@[simp] theorem doubleQuotes_spaced (names : List String) :
    doubleQuotes (spaced names) = doubleQuotes (String.join names) :=
  doubleQuotes_intercalate (by decide) names

/-- The implication of a rule holds the double quotes of its premises. -/
theorem doubleQuotes_implication (premises : List String) :
    doubleQuotes (" ==> ".intercalate (premises.map ("?" ++ ·) ++ ["False"])) =
      doubleQuotes (String.join premises) := by
  -- Neither the arrows nor the mark before each premise are double quotes.
  have marked : doubleQuotes (String.join (premises.map ("?" ++ ·))) =
      doubleQuotes (String.join premises) := by
    induction premises with
    | nil => rfl
    | cons premise others ih =>
      have mark : doubleQuotes "?" = 0 := rfl
      simp only [List.map_cons, String.join_cons, doubleQuotes_append, mark, ih, Nat.zero_add]
  have last : doubleQuotes (String.join ["False"]) = 0 := rfl
  rw [doubleQuotes_intercalate (by decide), String.join_append, doubleQuotes_append, marked, last,
    Nat.add_zero]

/-- No digit is a double quote. -/
theorem doubleQuotes_ruleName (number : Nat) : doubleQuotes (ruleName number) = 0 := by
  rw [doubleQuotes_eq_zero_iff]
  intro member
  rcases mem_ruleName member with letter | digit
  · cases letter
  · cases digit

/-- Words that hold no double quote add none. -/
theorem doubleQuotes_of_notMem (word : String) (plain : '"' ∉ word.toList := by decide) :
    doubleQuotes word = 0 :=
  doubleQuotes_eq_zero_iff.mpr plain

variable {statement : Statement}

/-- On the line of a quotation stand the two double quotes around what it quotes, and those in its
texts. -/
theorem doubleQuotes_text (quotes : statement.isQuotation = true) :
    doubleQuotes statement.text = 2 + doubleQuotes (String.join statement.texts) := by
  cases statement with
  | premise name formula | supposition name formula | denial name formula | goal formula
  | abbreviation name formula =>
    -- The words of the line are fixed, and the formula alone stands between quotes.
    simp [text, texts, doubleQuotes_of_notMem]
    omega
  | inference parents name formula =>
    -- The parents stand in front of the quoted formula, with spaces between them.
    simp [text, texts, tactic, doubleQuotes_of_notMem]
    omega
  | rule number premises facts =>
    -- The facts are named behind the implication, if there are any.
    have needed : doubleQuotes (if facts.isEmpty then "" else " using " ++ spaced facts) =
        doubleQuotes (String.join facts) := by
      cases facts <;> simp [doubleQuotes_of_notMem]
    simp only [text, doubleQuotes_append, doubleQuotes_inQuotes, doubleQuotes_implication,
      doubleQuotes_ruleName, needed]
    simp [texts, tactic, doubleQuotes_of_notMem]
    omega
  | _ => cases quotes

/-- The double quotes around what is quoted are the only ones on the line exactly if no text that is
put there holds one. -/
theorem doubleQuotes_text_eq_two_iff (quotes : statement.isQuotation = true) :
    doubleQuotes statement.text = 2 ↔ ∀ text ∈ statement.texts, '"' ∉ text.toList := by
  rw [doubleQuotes_text quotes, Nat.add_eq_left, doubleQuotes_join_eq_zero_iff]

end Statement

end Retrace
