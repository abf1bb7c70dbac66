import Retrace.Proofs.Draft
import Retrace.Proofs.Text.Characters

/-!
The written form of statements: it stays on one line if the texts of the statement do, and it tells
remarks and conclusions from all other statements.
-/

namespace Retrace

/-- A text fits on a line if it holds no line feed. -/
def FitsLine (text : String) : Prop :=
  '\n' ∉ text.toList

instance (text : String) : Decidable (FitsLine text) :=
  inferInstanceAs (Decidable (_ ∉ text.toList))

namespace Statement

/-- The texts that a statement takes from elsewhere. -/
def texts : Statement → List String
  | comment text | goal text | verbatim text => [text]
  | header label => label.toList
  | premise name formula | supposition name formula | denial name formula
  | abbreviation name formula => [name, formula]
  | inference parents name formula => parents ++ [name, formula]
  | rule _ premises facts => premises ++ facts
  | ruleConclusion tips _ => tips
  | _ => []

/-- Names that fit on a line fit on it together. -/
theorem fitsLine_spaced {names : List String} (fit : ∀ name ∈ names, FitsLine name) :
    '\n' ∉ (spaced names).toList := by
  rw [spaced, String.toList_intercalate]
  -- A line feed would be the space between two names or belong to one of them.
  intro member
  rcases Text.mem_intercalate member with space | ⟨piece, mapped, held⟩
  · exact absurd space (by decide)
  · obtain ⟨name, among, rfl⟩ := List.mem_map.mp mapped
    exact fit name among held

/-- The name of a rule is a letter with digits behind it. -/
theorem mem_ruleName {number : Nat} {c : Char} (member : c ∈ (ruleName number).toList) :
    c = 'r' ∨ c.isDigit = true := by
  rcases List.mem_cons.mp (by simpa [ruleName] using member) with letter | digit
  · exact .inl letter
  · exact .inr (Nat.isDigit_of_mem_toDigits (by decide) (by decide) digit)

/-- No digit is a line feed. -/
theorem fitsLine_ruleName (number : Nat) : '\n' ∉ (ruleName number).toList := by
  intro member
  rcases mem_ruleName member with letter | digit
  · cases letter
  · cases digit

/-- Parting asterisks from parentheses adds spaces only. -/
theorem fitsLine_withoutCommentEnd {text : List Char} (fits : '\n' ∉ text) :
    '\n' ∉ withoutCommentEnd text := by
  fun_induction withoutCommentEnd text with
  | case1 => exact fits
  | case2 rest ih =>
    -- The text is read from left to right, two characters at a time where it has to be.
    simp only [List.mem_cons, not_or] at fits ⊢
    exact ⟨by decide, by decide, by decide, ih fits.2.2⟩
  | case3 c rest _ ih =>
    simp only [List.mem_cons, not_or] at fits ⊢
    exact ⟨fits.1, ih fits.2⟩

/-- An implication from names that fit on a line fits on it. -/
theorem fitsLine_implication {premises : List String} (fit : ∀ name ∈ premises, FitsLine name) :
    '\n' ∉ (" ==> ".intercalate (premises.map ("?" ++ ·) ++ ["False"])).toList := by
  rw [String.toList_intercalate]
  intro member
  -- A line feed would be in an arrow, in a premise or in the last word.
  rcases Text.mem_intercalate member with arrow | ⟨piece, mapped, held⟩
  · exact absurd arrow (by decide)
  rw [List.map_append, List.mem_append, List.map_map] at mapped
  rcases mapped with premise | last
  · obtain ⟨name, among, rfl⟩ := List.mem_map.mp premise
    have clean : '\n' ∉ name.toList := fit name among
    exact clean (by simpa using held)
  · rw [List.mem_singleton.mp last] at held
    exact absurd held (by decide)

/-- A statement is written on one line if its texts fit on a line. -/
theorem fitsLine_text {statement : Statement} (fit : ∀ text ∈ statement.texts, FitsLine text) :
    FitsLine statement.text := by
  unfold FitsLine
  -- Each form words its own texts, between words that hold no line feed.
  cases statement with
  | comment text =>
    have kept := fitsLine_withoutCommentEnd (fit text (by simp [texts]))
    simpa [Statement.text] using kept
  | header label =>
    cases label with
    | none => decide
    | some label =>
      have clean : '\n' ∉ label.toList := fit label (by simp [texts])
      simpa [Statement.text] using clean
  | premise name formula | supposition name formula | denial name formula
  | abbreviation name formula =>
    have named : '\n' ∉ name.toList := fit name (by simp [texts])
    have stated : '\n' ∉ formula.toList := fit formula (by simp [texts])
    simp [Statement.text, inQuotes, named, stated]
  | goal formula =>
    have stated : '\n' ∉ formula.toList := fit formula (by simp [texts])
    simp [Statement.text, inQuotes, stated]
  | verbatim text => exact fit text (by simp [texts])
  | inference parents name formula =>
    have named : '\n' ∉ name.toList := fit name (by simp [texts])
    have stated : '\n' ∉ formula.toList := fit formula (by simp [texts])
    have cited : '\n' ∉ (spaced parents).toList :=
      fitsLine_spaced fun parent member => fit parent (by simp [texts, member])
    simp [Statement.text, inQuotes, named, stated, cited, tactic]
  | rule number premises facts =>
    have numbered := fitsLine_ruleName number
    have needed : '\n' ∉ (spaced facts).toList :=
      fitsLine_spaced fun fact member => fit fact (by simp [texts, member])
    -- The implication is worded apart from the facts behind it.
    have premised : ∀ name ∈ premises, FitsLine name := fun name member =>
      fit name (by simp [texts, member])
    have implied := fitsLine_implication premised
    simp only [Statement.text]
    generalize " ==> ".intercalate (premises.map ("?" ++ ·) ++ ["False"]) = implication at implied ⊢
    by_cases empty : facts.isEmpty = true <;>
      simp [inQuotes, numbered, needed, implied, empty, tactic]
  | conclusion chained => cases chained <;> decide
  | ruleConclusion tips number =>
    have numbered := fitsLine_ruleName number
    have origin : '\n' ∉ (spaced tips).toList :=
      fitsLine_spaced fun tip member => fit tip (by simp [texts, member])
    -- Without tips the conclusion names no origin.
    by_cases empty : tips.isEmpty = true <;> simp [Statement.text, numbered, origin, empty]
  | absurdGoal | contradictionBlock | absurdStep | plainBlock | blockEnd => decide

variable {statement : Statement}

/-- Only remarks start with a parenthesis, and no statement starts with a space. -/
theorem text_eq_cons (read : statement.isRemark = false) (own : statement.isVerbatim = false) :
    ∃ c rest, statement.text.toList = c :: rest ∧ c ≠ ' ' ∧ c ≠ '(' := by
  -- Every form has its first word fixed, apart from the three ways of a conclusion.
  cases statement with
  | comment text => cases read
  | verbatim text => cases own
  | header label => cases label <;> simp [Statement.text]
  | conclusion chained => cases chained <;> simp [Statement.text]
  | ruleConclusion tips number =>
    by_cases empty : tips.isEmpty = true <;> simp [Statement.text, empty]
  | _ => simp [Statement.text]

/-- No statement ends in a carriage return. -/
theorem getLast?_text (own : statement.isVerbatim = false) :
    statement.text.toList.getLast? ≠ some '\r' := by
  -- All forms end in a word, a quotation mark or a parenthesis.
  cases statement with
  | verbatim text => cases own
  | header label =>
    cases label <;> simp [Statement.text, List.getLast?_append, List.getLast?_cons]
  | conclusion chained => cases chained <;> simp [Statement.text, tactic]
  | _ =>
    simp [Statement.text, inQuotes, tactic, List.getLast?_append, List.getLast?_cons]

/-- The written form of a conclusion: falsity is shown at once, from the fact before it or from facts
that are named, by the proof method or by a rule. -/
def IsConclusionText (text : String) : Prop :=
  ∃ origin justification, text = origin ++ "show False by " ++ justification ∧
    (origin = "" ∨ origin = "then " ∨ ∃ names, origin = "from " ++ names ++ " ") ∧
    (justification = tactic ∨ ∃ number, justification = "(rule " ++ number ++ ")")

/-- Conclusions are written as such. -/
theorem isConclusionText_of_isConclusion (concludes : statement.isConclusion = true) :
    IsConclusionText statement.text := by
  -- There are two statements of this kind, each in two wordings.
  cases statement with
  | conclusion chained =>
    cases chained with
    | false => exact ⟨"", tactic, rfl, .inl rfl, .inl rfl⟩
    | true => exact ⟨"then ", tactic, rfl, .inr (.inl rfl), .inl rfl⟩
  | ruleConclusion tips number =>
    by_cases empty : tips.isEmpty = true
    · refine ⟨"", "(rule " ++ ruleName number ++ ")", ?_, .inl rfl, .inr ⟨_, rfl⟩⟩
      simp [Statement.text, empty, ← String.toList_inj]
    · refine ⟨"from " ++ spaced tips ++ " ", "(rule " ++ ruleName number ++ ")", ?_,
        .inr (.inr ⟨_, rfl⟩), .inr ⟨_, rfl⟩⟩
      simp [Statement.text, empty, ← String.toList_inj]
  | _ => cases concludes

/-- Nothing else is written as a conclusion. -/
theorem not_isConclusionText (read : statement.isRemark = false)
    (own : statement.isVerbatim = false) (other : statement.isConclusion = false) :
    ¬ IsConclusionText statement.text := by
  rintro ⟨origin, justification, same, from_what, by_what⟩
  have same := congrArg String.toList same
  cases statement with
  | comment text => cases read
  | verbatim text => cases own
  | conclusion chained => cases other
  | ruleConclusion tips number => cases other
  | inference parents name formula =>
    -- The quotation of the formula would have to end where falsity is named.
    have ends := congrArg List.reverse same
    rcases by_what with rfl | ⟨number, rfl⟩ <;> simp [Statement.text, inQuotes, tactic] at ends
  -- Every other statement begins with a word of its own.
  | header label =>
    cases label <;> rcases from_what with rfl | rfl | ⟨names, rfl⟩ <;>
      simp [Statement.text] at same
  | _ =>
    rcases from_what with rfl | rfl | ⟨names, rfl⟩ <;> simp [Statement.text] at same

end Statement

end Retrace
