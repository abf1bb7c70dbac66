import Retrace.Proofs.Draft.Introductions
import Retrace.Proofs.Script.Wording
import Retrace.Proofs.Session.Blocks
import Retrace.Proofs.Tableau.ClosedForm

/-!
The deductions of a tableau as they are written: an abbreviation for every derived clause, a rule for
each of them in the order of the numbers, and the conclusion from the tips by the last rule.
-/

namespace Retrace.Tableau

/-- The line that gives a derived clause its abbreviation. -/
def abbreviationText (clause : Clause) : String :=
  "let ?" ++ clause.name ++ " = \"" ++ clause.formula ++ "\""

/-- The line of the rule of the given number. It says that the core and the derived clauses that are
not yet taken are refuted together, and it uses the rule before it, if there is one, and the theory. -/
def ruleText (clauses : List Clause) (number : Nat) : String :=
  let derived := Clause.derivedOf clauses
  let premises := coreClauses clauses number ++ derived.take (derived.length - number)
  let facts := ruleFacts (number - 1) (Clause.theoryOf clauses)
  "have r" ++ toString number ++ ": \"" ++
    String.join (premises.map fun clause => "?" ++ clause.name ++ " ==> ") ++ "False\"" ++
    (if facts.isEmpty then "" else " using " ++ " ".intercalate facts) ++ " by metis"

/-- The line that concludes: from the tips of the final core, by the last rule. -/
def conclusionText (clauses : List Clause) : String :=
  "from " ++ " ".intercalate (tips clauses) ++ " show False by (rule r" ++
    toString (Clause.derivedOf clauses).length ++ ")"

/-- The lines that close the innermost block: all rules and the conclusion. -/
def closingTexts (clauses : List Clause) : List String :=
  -- Without a derived clause no rule can be named.
  if (Clause.derivedOf clauses).isEmpty then ["show False by metis"]
  else
    (List.range' 1 (Clause.derivedOf clauses).length).map (ruleText clauses) ++
      [conclusionText clauses]

/-- An implication has an arrow behind each of its premises. -/
theorem intercalate_arrow (premises : List String) (refuted : String) :
    " ==> ".intercalate (premises.map ("?" ++ ·) ++ [refuted]) =
      String.join (premises.map fun name => "?" ++ name ++ " ==> ") ++ refuted := by
  induction premises with
  | nil => simp
  | cons name premises ih =>
    -- The conclusion stands behind the first premise in any case.
    rw [List.map_cons, List.cons_append, String.intercalate_cons_of_ne_nil (by simp), ih,
      List.map_cons, String.join_cons, ← String.append_assoc]

/-- A derived clause is abbreviated in its line. -/
theorem text_abbreviation (clause : Clause) :
    (Statement.abbreviation clause.name clause.formula).text = abbreviationText clause := by
  -- Both put the formula between the same quotes.
  simp [Statement.text, Statement.inQuotes, abbreviationText, ← String.toList_inj]

/-- What a rule needs is the rule before it, if it is not the first, and the theory. -/
theorem ruleFacts_eq (number : Nat) (theory : List String) :
    ruleFacts (number - 1) theory =
      (if 1 < number then [Statement.ruleName (number - 1)] else []) ++ theory := by
  by_cases later : 1 < number
  · rw [ruleFacts, if_neg (by omega), if_pos later, List.singleton_append]
  · rw [ruleFacts, if_pos (by omega), if_neg later, List.nil_append]

/-- A rule is written in the line of its number. -/
theorem text_ruleNumbered (clauses : List Clause) (number : Nat) :
    (ruleNumbered clauses number).text = ruleText clauses number := by
  rw [ruleNumbered, ruleText, ← ruleFacts_eq]
  -- The premises and the facts are the same on both sides, and only their wording is compared.
  generalize coreClauses clauses number ++ (Clause.derivedOf clauses).take _ = premises
  generalize ruleFacts (number - 1) (Clause.theoryOf clauses) = facts
  simp only [Statement.text]
  rw [intercalate_arrow, List.map_map, Function.comp_def]
  simp [Statement.ruleName, Statement.inQuotes, Statement.tactic, Statement.spaced,
    ← String.toList_inj]

/-- The conclusion is written from the tips, of which there are some. -/
theorem text_ruleConclusion {clauses : List Clause} (cites : tips clauses ≠ []) :
    (Statement.ruleConclusion (tips clauses) (Clause.derivedOf clauses).length).text =
      conclusionText clauses := by
  -- Were there no tips, nothing would stand in front of the conclusion.
  simp [Statement.text, conclusionText, Statement.spaced, Statement.ruleName,
    List.isEmpty_eq_false_iff.mpr cites, ← String.toList_inj]

/-- There is a tip to conclude from as soon as there is a derived clause. -/
theorem tips_ne_nil {clauses : List Clause} (ordered : Clause.Ordered clauses)
    (derives : Clause.derivedOf clauses ≠ []) : tips clauses ≠ [] := by
  -- Every member of the core has a tip, and the core is not empty.
  simpa [tips] using coreClauses_ne_nil ordered derives

/-- With a derived clause, the conclusion stands behind the rules. -/
theorem closingTexts_of_derived {clauses : List Clause} (derives : Clause.derivedOf clauses ≠ []) :
    closingTexts clauses =
      (List.range' 1 (Clause.derivedOf clauses).length).map (ruleText clauses) ++
        [conclusionText clauses] := by
  rw [closingTexts, List.isEmpty_eq_false_iff.mpr derives, if_neg Bool.false_ne_true]

/-- The rules and the conclusion are written one by one. -/
theorem texts_deductions {clauses : List Clause} (cites : tips clauses ≠ []) :
    ((List.range' 1 (Clause.derivedOf clauses).length).map (ruleNumbered clauses) ++
        [Statement.ruleConclusion (tips clauses) (Clause.derivedOf clauses).length]).map
        Statement.text =
      (List.range' 1 (Clause.derivedOf clauses).length).map (ruleText clauses) ++
        [conclusionText clauses] := by
  rw [List.map_append, List.map_map, List.map_singleton, text_ruleConclusion cites]
  -- Every rule is written by its number alone.
  exact congrArg (· ++ _) (List.map_congr_left fun number _ => text_ruleNumbered _ number)

/-- The deductions that close a tableau are written in the closing lines. -/
theorem texts_closing {graph : Graph} (ordered : Clause.Ordered graph.toList) :
    (Method.closing .tableau graph).map Statement.text = closingTexts graph.toList := by
  by_cases none : Clause.derivedOf graph.toList = []
  · rw [closing_of_underived none, closingTexts, none]
    rfl
  · -- With a derived clause there is a tip, so the conclusion names where it starts from.
    rw [closing_eq ordered none, closingTexts_of_derived none,
      texts_deductions (tips_ne_nil ordered none)]

/-- The ends of blocks are written two columns left of one another, the last one at the margin. -/
theorem written_blockEnds (count : Nat) :
    (Draft.blockEnds count).map Line.written =
      (List.range count).reverse.map fun outer => "".pushn ' ' (2 * outer) ++ "qed" := by
  induction count with
  | zero => rfl
  | succ count ih =>
    -- The block that was opened last is ended first.
    rw [Draft.blockEnds, List.map_cons, ih, List.range_succ, List.reverse_append,
      List.reverse_singleton, List.singleton_append, List.map_cons]
    rfl

variable {preferences : Preferences} {texts : List String} {clauses : List Clause}
  {session : Session}

/-- The lines of a script in which a tableau for the given clauses introduces facts or deduces, as they
are written. -/
structure Worded (clauses : List Clause) (script : Script) : Prop where
  /-- The facts are the roots, each of which is assumed, and then the rules. -/
  introductions : ∃ supplied,
    List.Forall₂ Clause.IntroducedAs (clauses.filter Clause.isRoot) supplied ∧
      (script.lines.toList.filter (·.statement.introduced?.isSome)).map (unindented ·.written) =
        supplied ++ (List.range' 1 (Clause.derivedOf clauses).length).map (ruleText clauses)
  /-- The deductions are the abbreviations, in the order of the trace, and the closing lines. -/
  deductions :
    (script.lines.toList.filter (·.statement.isDeduction)).map (unindented ·.written) =
      (Clause.derivedOf clauses).map abbreviationText ++ closingTexts clauses

/-- Of the deductions that close a tableau, the rules introduce facts. -/
theorem introductions_closing {graph : Graph} (ordered : Clause.Ordered graph.toList) :
    (Method.closing .tableau graph).filter (·.introduced?.isSome) =
      (List.range' 1 (Clause.derivedOf graph.toList).length).map (ruleNumbered graph.toList) := by
  rw [filter_closing ordered fun statement concludes => ?_,
    Statement.filter_map_eq_map _ _ _ fun _ => rfl]
  -- A conclusion gives no name to what it finds.
  cases statement <;> first | rfl | cases concludes

/-- All that derived clauses become and all that closes the script is deduced. -/
theorem isDeduction_of_mem {graph : Graph} {statement : Statement}
    (member : statement ∈ (Clause.derivedOf graph.toList).map (Method.statement .tableau) ++
      Method.closing .tableau graph) : statement.isDeduction = true := by
  rcases List.mem_append.mp member with step | closing
  · obtain ⟨clause, -, rfl⟩ := List.mem_map.mp step
    rfl
  -- What closes the script is steps and a conclusion.
  obtain ⟨rules, conclusion, closes, steps, concludes⟩ := Method.closing_eq .tableau graph
  rw [closes] at closing
  rcases List.mem_append.mp closing with rule | last
  · exact Statement.isDeduction_of_isStep (steps statement rule)
  · rw [List.mem_singleton.mp last, Statement.isDeduction, concludes, Bool.or_true]

/-- The script of an accepted trace is worded by its clauses. -/
theorem worded_of_closed (closed : Session.Closed .tableau preferences texts clauses session)
    (suited : Clause.Suited clauses) : Worded clauses session.script := by
  have ordered := closed.ordered
  constructor
  · -- The draft introduces the roots one by one, and each is written as its statement says.
    have introduced := Draft.introductions_ofClauses .tableau suited
    refine ⟨_, List.forall₂_map_right_iff.mpr (introduced.imp fun _ _ => Clause.IntroducedBy.text),
      ?_⟩
    rw [Script.filter_written _ _ fun _ => Statement.read_of_introduces, closed.introductions,
      List.map_append]
    obtain rfl := closed.entered
    rw [introductions_closing ordered, List.map_map]
    exact congrArg _ (List.map_congr_left fun number _ => text_ruleNumbered _ number)
  · obtain rfl := closed.entered
    have deduced := List.filter_eq_self.mpr fun _ => @isDeduction_of_mem session.graph _
    rw [Script.filter_written _ _ fun statement kind => ?_, closed.filter_deductions _ fun _ => id,
      deduced, List.map_append, texts_closing ordered, List.map_map]
    · exact congrArg (· ++ _) (List.map_congr_left fun clause _ => text_abbreviation clause)
    · -- A deduction is read by the proof and worded by its form.
      cases statement <;>
        simp_all [Statement.isDeduction, Statement.isStep, Statement.isConclusion,
          Statement.isRemark, Statement.isVerbatim]

end Retrace.Tableau
