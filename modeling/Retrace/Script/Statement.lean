/-!
The statements that a proof script is made of, and their written form.
-/

namespace Retrace

/-- A statement of a proof script. Each takes one line. -/
inductive Statement where
  /-- A remark that the proof does not read. -/
  | comment (text : String)
  /-- The header of the lemma, with its name if it has one. -/
  | header (label : Option String)
  /-- An assumption of the lemma. -/
  | premise (name formula : String)
  /-- An assumption inside a proof block. -/
  | supposition (name formula : String)
  /-- The assumption that a conjecture does not hold. -/
  | denial (name formula : String)
  /-- The conclusion of the lemma. -/
  | goal (formula : String)
  /-- Falsity as the conclusion of the lemma. -/
  | absurdGoal
  /-- Opens a block that proves a conclusion by refuting its denial. -/
  | contradictionBlock
  /-- Falsity as what the next block proves. -/
  | absurdStep
  /-- Opens a block that takes no first step. -/
  | plainBlock
  /-- A fact that follows from the facts named. -/
  | inference (parents : List String) (name formula : String)
  /-- A name for the formula of a clause. -/
  | abbreviation (name formula : String)
  /-- The numbered fact that the premises, taken together, are refuted, with the facts it needs. -/
  | rule (number : Nat) (premises facts : List String)
  /-- Falsity, found at once or from the fact before. -/
  | conclusion (chained : Bool)
  /-- Falsity, found by a numbered fact from the facts named. -/
  | ruleConclusion (tips : List String) (number : Nat)
  /-- Closes a block. -/
  | blockEnd
  /-- Any other text. -/
  | verbatim (text : String)
  deriving DecidableEq, Repr

namespace Statement

/-- The proof method that justifies every step. -/
def tactic : String := "metis"

/-- The name of a numbered fact. -/
def ruleName (number : Nat) : String :=
  "r" ++ toString number

/-- A text between double quotes. -/
def inQuotes (text : String) : String :=
  "\"" ++ text ++ "\""

/-- Several names with a space between them. -/
def spaced (names : List String) : String :=
  " ".intercalate names

/-- A text in which no comment can end: a space parts every asterisk from a parenthesis that
directly closes after it. -/
def withoutCommentEnd : List Char → List Char
  | [] => []
  | '*' :: ')' :: rest => '*' :: ' ' :: ')' :: withoutCommentEnd rest
  | c :: rest => c :: withoutCommentEnd rest

/-- The written form of a statement, without its column. -/
def text : Statement → String
  | comment text => "(* " ++ String.ofList (withoutCommentEnd text.toList) ++ " *)"
  | header none => "lemma"
  | header (some label) => "lemma " ++ label ++ ":"
  | premise name formula => "assumes " ++ name ++ ": " ++ inQuotes formula
  | supposition name formula => "assume " ++ name ++ ": " ++ inQuotes formula
  | denial name formula => "assume " ++ name ++ ": " ++ inQuotes ("~ (" ++ formula ++ ")")
  | goal formula => "shows " ++ inQuotes formula
  | absurdGoal => "shows False"
  | contradictionBlock => "proof (rule ccontr)"
  | absurdStep => "show False"
  | plainBlock => "proof -"
  | inference parents name formula =>
    "from " ++ spaced parents ++ " have " ++ name ++ ": " ++ inQuotes formula ++ " by " ++ tactic
  | abbreviation name formula => "let ?" ++ name ++ " = " ++ inQuotes formula
  | rule number premises facts =>
    let implication := " ==> ".intercalate (premises.map ("?" ++ ·) ++ ["False"])
    let needed := if facts.isEmpty then "" else " using " ++ spaced facts
    "have " ++ ruleName number ++ ": " ++ inQuotes implication ++ needed ++ " by " ++ tactic
  | conclusion chained => (if chained then "then " else "") ++ "show False by " ++ tactic
  | ruleConclusion tips number =>
    let origin := if tips.isEmpty then "" else "from " ++ spaced tips ++ " "
    origin ++ "show False by (rule " ++ ruleName number ++ ")"
  | blockEnd => "qed"
  | verbatim text => text

end Statement

end Retrace
