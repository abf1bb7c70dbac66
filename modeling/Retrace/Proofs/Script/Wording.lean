import Mathlib.Data.List.Infix
import Retrace.Proofs.Script

/-!
What is counted in the text of a script: its line feeds, and the lines that start with certain words,
by which the statements of some kinds are told from all others.
-/

namespace Retrace

/-- Whether a line of a script starts with the given words, its column apart. -/
def startsWith (words line : String) : Bool :=
  words.toList.isPrefixOf (line.toList.dropWhile (· == ' '))

/-- Whether words stand anywhere in a line. -/
def hasWords (words line : String) : Bool :=
  line.toList.tails.any words.toList.isPrefixOf

/-- Whether a line of a script states a fact that follows from others, which it names. -/
def isInferenceText (line : String) : Bool :=
  startsWith "from " line && hasWords " have " line

/-- Words stand in a line if its characters have theirs inside. -/
theorem hasWords_of_infix {words line : String} (inside : words.toList <:+: line.toList) :
    hasWords words line = true := by
  obtain ⟨tail, begins, ends⟩ := List.infix_iff_prefix_suffix.mp inside
  exact List.any_eq_true.mpr
    ⟨tail, (List.mem_tails tail line.toList).mpr ends, List.isPrefixOf_iff_prefix.mpr begins⟩

namespace Statement

/-- Rules are the numbered facts. -/
def isRule : Statement → Bool
  | rule .. => true
  | _ => false

/-- Abbreviations name the formulas of clauses. -/
def isAbbreviation : Statement → Bool
  | abbreviation .. => true
  | _ => false

/-- Inferences are the facts that follow from facts that they name. -/
def isInference : Statement → Bool
  | inference .. => true
  | _ => false

/-- Statements that are all of a kind are all selected. -/
theorem filter_map_eq_map {α : Type} (kind : Statement → Bool) (state : α → Statement)
    (items : List α) (every : ∀ item, kind (state item) = true) :
    (items.map state).filter kind = items.map state :=
  List.filter_eq_self.mpr (List.forall_mem_map.mpr fun item _ => every item)

/-- Of statements that are all of other kinds none is selected. -/
theorem filter_map_eq_nil {α : Type} (kind : Statement → Bool) (state : α → Statement)
    (items : List α) (other : ∀ item, kind (state item) = false) :
    (items.map state).filter kind = [] :=
  List.filter_eq_nil_iff.mpr (List.forall_mem_map.mpr fun item _ => by simp [other item])

variable {statement : Statement}

/-- The first words of a statement tell rules and abbreviations from all others, and inferences from
all but conclusions that name the tips of a core. -/
theorem isPrefixOf_text (own : statement.isVerbatim = false) :
    "have r".toList.isPrefixOf statement.text.toList = statement.isRule ∧
      "let ".toList.isPrefixOf statement.text.toList = statement.isAbbreviation ∧
      ((∀ tips number, statement ≠ .ruleConclusion tips number) →
        "from ".toList.isPrefixOf statement.text.toList = statement.isInference) := by
  -- Every form has its first words fixed, apart from the three ways of a conclusion.
  cases statement with
  | verbatim text => cases own
  | header label =>
    cases label <;> simp [text, isRule, isAbbreviation, isInference, List.isPrefixOf]
  | conclusion chained =>
    cases chained <;> simp [text, isRule, isAbbreviation, isInference, List.isPrefixOf]
  | ruleConclusion tips number =>
    by_cases empty : tips.isEmpty = true <;>
      simp [text, isRule, isAbbreviation, isInference, empty, List.isPrefixOf]
  | _ => simp [text, isRule, isAbbreviation, isInference, ruleName, List.isPrefixOf]

/-- A rule starts with its number. -/
theorem isPrefixOf_ruleName (number : Nat) (premises facts : List String) :
    ("have " ++ ruleName number ++ ":").toList.isPrefixOf
      (rule number premises facts).text.toList = true := by
  rw [List.isPrefixOf_iff_prefix]
  simp [text, List.append_assoc]

/-- An inference says that it has a fact. -/
theorem infix_inference (parents : List String) (name formula : String) :
    " have ".toList <:+: (inference parents name formula).text.toList := by
  refine ⟨("from " ++ spaced parents).toList,
    (name ++ ": " ++ inQuotes formula ++ " by " ++ tactic).toList, ?_⟩
  simp [text, List.append_assoc]

end Statement

namespace Line

variable {line : Line}

/-- The words that a line starts with are those of its statement. -/
theorem startsWith_written (own : line.statement.isVerbatim = false) (words : String) :
    startsWith words line.written = words.toList.isPrefixOf line.statement.text.toList := by
  -- A remark starts with a parenthesis, and no other statement with a space either.
  have shown : ∃ c rest, line.statement.text.toList = c :: rest ∧ c ≠ ' ' := by
    cases remark : line.statement.isRemark with
    | true => cases stated : line.statement <;> simp_all [Statement.isRemark, Statement.text]
    | false =>
      obtain ⟨c, rest, text, shown, -⟩ := Statement.text_eq_cons remark own
      exact ⟨c, rest, text, shown⟩
  obtain ⟨c, rest, text, shown⟩ := shown
  rw [startsWith, toList_written, text, dropWhile_replicate line.column shown]

/-- Unless the tips of a core are named, only an inference is written as one. -/
theorem isInferenceText_written (own : line.statement.isVerbatim = false)
    (other : ∀ tips number, line.statement ≠ .ruleConclusion tips number) :
    isInferenceText line.written = line.statement.isInference := by
  rw [isInferenceText, startsWith_written own, (Statement.isPrefixOf_text own).2.2 other]
  -- The first word decides, and only an inference goes on to have a fact.
  cases stated : line.statement with
  | inference parents name formula =>
    have states : " have ".toList <:+: line.written.toList := by
      rw [toList_written, stated]
      exact (Statement.infix_inference parents name formula).trans (List.suffix_append _ _).isInfix
    simpa [Statement.isInference] using hasWords_of_infix states
  | _ => simp [Statement.isInference]

/-- A line whose statement fits on it has one line feed, at its end. -/
theorem count_text (fits : FitsLine line.statement.text) : line.text.toList.count '\n' = 1 := by
  have none : line.written.toList.count '\n' = 0 := List.count_eq_zero.mpr (fitsLine_written fits)
  rw [toList_text, List.count_append, none]
  rfl

end Line

namespace Script

/-- A script has a line feed for every line. -/
theorem count_text {script : Script}
    (fit : ∀ line ∈ script.lines.toList, FitsLine line.statement.text) :
    script.text.toList.count '\n' = script.lines.size := by
  rw [text, ← Array.length_toList]
  generalize script.lines.toList = lines at fit
  induction lines with
  | nil => rfl
  | cons line lines ih =>
    -- Each line brings the one at its end.
    rw [List.map_cons, String.join_cons, String.toList_append, List.count_append,
      Line.count_text (fit line List.mem_cons_self),
      ih fun other member => fit other (List.mem_cons_of_mem _ member), List.length_cons, Nat.add_comm]

end Script

end Retrace
