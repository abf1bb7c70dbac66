import Retrace.Proofs.Tableau.Scoping

/-!
The labels of the facts in scripts of a tableau. Rules are numbered without regard to the names of
the trace, so that a root may have the name of a rule, and is cited in vain behind that rule.
-/

namespace Retrace

namespace Statement

/-- Rules of different numbers have different names. -/
theorem ruleName_inj {number other : Nat} : ruleName number = ruleName other ↔ number = other := by
  constructor
  · intro same
    -- Behind the letter stand the decimal digits, from which the number is read back.
    have digits : Nat.toDigits 10 number = Nat.toDigits 10 other := by
      have shown := congrArg String.toList same
      simpa [ruleName, ToString.toString, Nat.repr] using shown
    rw [← Nat.ofDigitChars_toDigits (b := 10) (n := number) (by decide) (by decide), digits,
      Nat.ofDigitChars_toDigits (by decide) (by decide)]
  · rintro rfl
    rfl

/-- The names by which a statement cites clauses: all facts that it starts from or uses, except the
rule that a later rule rests on. -/
def citedClauses : Statement → List String
  | inference parents _ _ => parents
  | rule number _ facts => if 1 < number then facts.tail else facts
  | ruleConclusion tips _ => tips
  | _ => []

/-- The name of the rule that a statement introduces, if it introduces one. -/
def ruleLabel? : Statement → Option String
  | rule number _ _ => some (ruleName number)
  | _ => none

/-- The citations of clauses by a name that a rule has taken, each with the statement that makes it:
what is cited is then the rule, which stands between the clause and the citation. -/
def captured (statements : List Statement) : List (Statement × String) :=
  flagged citedClauses ruleLabel? (fun taken name => taken.contains name) [] statements

variable {statement : Statement}

/-- What cites no fact cites no clause. -/
theorem citedClauses_of_uncited (uncited : statement.cited = []) : statement.citedClauses = [] := by
  cases statement <;> simp_all [cited, citedClauses]

/-- A rule is a deduction. -/
theorem ruleLabel?_of_not_isDeduction (other : statement.isDeduction = false) :
    statement.ruleLabel? = none := by
  cases statement <;> simp_all [isDeduction, isStep, ruleLabel?]

end Statement

namespace Tableau

open Statement

variable {preferences : Preferences} {texts : List String} {clauses : List Clause}
  {session : Session}

/-- The names of the rules before the given number. -/
def ruleNames (number : Nat) : List String :=
  (List.range' 1 (number - 1)).map ruleName

/-- A rule cites the theory as clauses. -/
theorem citedClauses_ruleNumbered (clauses : List Clause) (number : Nat) :
    (ruleNumbered clauses number).citedClauses = Clause.theoryOf clauses := by
  -- The rule before it comes first, if there is one.
  by_cases later : 1 < number <;> simp [ruleNumbered, citedClauses, later]

/-- The citations that the rules up to a number make of clauses whose name an earlier rule has
taken. -/
def capturedByRules (clauses : List Clause) (count : Nat) : List (Statement × String) :=
  (List.range' 1 count).flatMap fun number =>
    ((Clause.theoryOf clauses).filter (ruleNames number).contains).map
      (ruleNumbered clauses number, ·)

/-- The citations that the conclusion makes of tips whose name a rule has taken. -/
def capturedByConclusion (clauses : List Clause) : List (Statement × String) :=
  let count := (Clause.derivedOf clauses).length
  ((tips clauses).filter (ruleNames (count + 1)).contains).map (.ruleConclusion (tips clauses) count, ·)

/-- The deductions that close a tableau introduce the rules. -/
theorem names_closing {graph : Graph} (ordered : Clause.Ordered graph.toList) :
    (Method.closing .tableau graph).filterMap introduced? =
      (List.range' 1 (Clause.derivedOf graph.toList).length).map ruleName := by
  by_cases none : Clause.derivedOf graph.toList = []
  · simp [closing_of_underived none, none, introduced?]
  · rw [closing_eq ordered none, List.filterMap_append, names_rules]
    -- The conclusion gives no name to what it finds.
    simp [introduced?]

/-- A closed script introduces its facts in order: the roots, then the rules. -/
theorem names_of_closed (closed : Session.Closed .tableau preferences texts clauses session)
    (suited : Clause.Suited clauses) :
    session.script.statements.filterMap introduced? = facts clauses := by
  have ordered := closed.ordered
  have roots := names_of_introductions (Draft.introductions_ofClauses .tableau suited)
  rw [filterMap_introduced?, closed.introductions, List.filterMap_append, Draft.introductions,
    ← filterMap_introduced?, ← filterMap_introduced?, roots]
  -- Behind the roots stand the rules, of which there is one for each derived clause.
  obtain rfl := closed.entered
  rw [names_closing ordered, facts]
  rfl

/-- The facts are named apart exactly if no root has the name of a rule: roots have different names,
and so have rules. -/
theorem nodup_facts (ordered : Clause.Ordered clauses) :
    (facts clauses).Nodup ↔
      ∀ root ∈ clauses, root.isRoot = true → ∀ number, 1 ≤ number →
        number ≤ (Clause.derivedOf clauses).length → root.name ≠ ruleName number := by
  -- Within either part the names are distinct, so only a name in both is left to exclude.
  have roots : ((clauses.filter Clause.isRoot).map Clause.name).Nodup :=
    ordered.distinct.sublist (List.filter_sublist.map Clause.name)
  have rules : ((List.range' 1 (Clause.derivedOf clauses).length).map ruleName).Nodup :=
    List.Nodup.map (fun _ _ => ruleName_inj.mp) List.nodup_range'
  rw [facts, List.nodup_append]
  constructor
  · intro apart root member isRoot number positive bounded
    -- A root of the name of a rule would stand in both parts.
    refine apart.2.2 _ (List.mem_map_of_mem (List.mem_filter.mpr ⟨member, isRoot⟩)) _
      (List.mem_map_of_mem ?_)
    rw [List.mem_range'_1]
    omega
  · intro apart
    refine ⟨roots, rules, fun name root other rule => ?_⟩
    obtain ⟨clause, supplied, rfl⟩ := List.mem_map.mp root
    obtain ⟨number, within, rfl⟩ := List.mem_map.mp rule
    obtain ⟨member, isRoot⟩ := List.mem_filter.mp supplied
    rw [List.mem_range'_1] at within
    exact apart clause member isRoot number within.1 (by omega)

/-- The rules up to a number, in order, are those that later citations may fall to. -/
theorem ruleLabels_rules (clauses : List Clause) (count : Nat) :
    ((List.range' 1 count).map (ruleNumbered clauses)).filterMap ruleLabel? =
      ruleNames (count + 1) := by
  rw [List.filterMap_map, ruleNames, Nat.add_sub_cancel]
  exact List.filterMap_eq_map_iff_forall_eq_some.mpr fun _ _ => rfl

/-- Each rule cites the theory behind the rules before it. -/
theorem captured_rules (clauses : List Clause) (count : Nat) :
    captured ((List.range' 1 count).map (ruleNumbered clauses)) = capturedByRules clauses count := by
  -- The rules are numbered from one, so the induction takes off the last one.
  induction count with
  | zero => rfl
  | succ count ih =>
    rw [captured] at ih ⊢
    rw [capturedByRules, List.range'_1_concat, List.map_append, flagged_append, ih, List.nil_append,
      ruleLabels_rules, List.flatMap_append, ← capturedByRules, List.map_singleton, flagged,
      List.flatMap_singleton, flagged, List.append_nil, citedClauses_ruleNumbered, Nat.add_comm 1]

/-- In a closed script, the citations of clauses that fall to a rule are made by later rules, to the
theory, and by the conclusion, to the tips. -/
theorem captured_of_closed (closed : Session.Closed .tableau preferences texts clauses session) :
    captured session.script.statements =
      capturedByRules clauses (Clause.derivedOf clauses).length ++ capturedByConclusion clauses := by
  have ordered := closed.ordered
  obtain rfl := closed.entered
  -- Before the deductions that close it, the script names no rule.
  have before : (beforeClosing preferences.label session.graph).filterMap ruleLabel? = [] := by
    rw [List.filterMap_eq_nil_iff]
    intro statement member
    rcases mem_beforeClosing member with other | ⟨_, _, rfl⟩
    · exact ruleLabel?_of_not_isDeduction other
    · rfl
  rw [captured, flagged_of_closed closed (fun _ => citedClauses_of_uncited) fun _ => rfl, before,
    List.append_nil]
  by_cases none : Clause.derivedOf session.graph.toList = []
  · -- Without a derived clause there is neither a rule nor a tip.
    simp [closing_of_underived none, none, flagged, citedClauses, capturedByRules,
      capturedByConclusion, tips, coreClauses]
  · rw [closing_eq ordered none, flagged_append, ← captured, captured_rules, List.nil_append,
      ruleLabels_rules]
    rw [flagged, flagged, List.append_nil]
    rfl

/-- A name is that of a rule before the given number exactly if it is made from a smaller number. -/
theorem mem_ruleNames {name : String} {number : Nat} :
    name ∈ ruleNames number ↔ ∃ earlier, 1 ≤ earlier ∧ earlier < number ∧ name = ruleName earlier := by
  simp only [ruleNames, List.mem_map, List.mem_range'_1]
  constructor
  · rintro ⟨earlier, within, rfl⟩
    exact ⟨earlier, within.1, by omega, rfl⟩
  · rintro ⟨earlier, positive, smaller, rfl⟩
    exact ⟨earlier, by omega, rfl⟩

/-- No citation by a rule falls to another rule exactly if no clause of the theory has the name of a
rule that is followed by one. -/
theorem capturedByRules_eq_nil (clauses : List Clause) (count : Nat) :
    capturedByRules clauses count = [] ↔
      ∀ name ∈ Clause.theoryOf clauses, name ∉ ruleNames count := by
  simp only [capturedByRules, List.flatMap_eq_nil_iff, List.map_eq_nil_iff, List.filter_eq_nil_iff,
    List.contains_iff_mem, List.mem_range'_1]
  constructor
  · intro none name theoretical taken
    obtain ⟨_, positive, smaller, -⟩ := mem_ruleNames.mp taken
    exact none count (by omega) name theoretical taken
  · -- What is taken before some rule is taken before the last one.
    intro none number within name theoretical taken
    obtain ⟨earlier, positive, smaller, rfl⟩ := mem_ruleNames.mp taken
    exact none _ theoretical (mem_ruleNames.mpr ⟨earlier, positive, by omega, rfl⟩)

/-- No citation by the conclusion falls to a rule exactly if no tip has the name of a rule. -/
theorem capturedByConclusion_eq_nil (clauses : List Clause) :
    capturedByConclusion clauses = [] ↔
      ∀ tip ∈ tips clauses, tip ∉ ruleNames ((Clause.derivedOf clauses).length + 1) := by
  simp only [capturedByConclusion, List.map_eq_nil_iff, List.filter_eq_nil_iff,
    List.contains_iff_mem]

/-- A line that cites a clause by a name that a rule has taken is written as a rule or as the conclusion
from the tips. -/
theorem written_of_captured (closed : Session.Closed .tableau preferences texts clauses session)
    {line : Line} {name : String}
    (cites : (line.statement, name) ∈ captured session.script.statements) :
    unindented line.written ∈ closingTexts clauses := by
  rw [captured_of_closed closed] at cites
  -- Either way there is a rule, and so a derived clause.
  rcases List.mem_append.mp cites with byRule | byConclusion
  · obtain ⟨number, within, among⟩ := List.mem_flatMap.mp byRule
    obtain ⟨_, -, same⟩ := List.mem_map.mp among
    obtain ⟨stated, -⟩ := Prod.mk.inj same
    have derives : Clause.derivedOf clauses ≠ [] := by
      rintro none
      simp [none] at within
    rw [closingTexts_of_derived derives, Line.unindented_written (stated ▸ rfl) (stated ▸ rfl),
      ← stated, text_ruleNumbered]
    exact List.mem_append_left _ (List.mem_map_of_mem within)
  · obtain ⟨tip, among, same⟩ := List.mem_map.mp byConclusion
    obtain ⟨stated, -⟩ := Prod.mk.inj same
    -- A tip that is captured is a tip, so there are tips to conclude from.
    have cited := List.ne_nil_of_mem (List.mem_filter.mp among).1
    have derives : Clause.derivedOf clauses ≠ [] := by
      rintro none
      simp [tips, coreClauses, none] at cited
    rw [closingTexts_of_derived derives, Line.unindented_written (stated ▸ rfl) (stated ▸ rfl),
      ← stated, text_ruleConclusion cited]
    exact List.mem_append_right _ List.mem_cons_self

/-- The script for an accepted trace introduces the roots, in the order of the trace, and then the
rules. Its facts are named apart exactly if no root has the name of a rule. The names under which
clauses are cited fall to rules where the theory has the name of an earlier rule or a tip that of any
rule, and nowhere else. The lines that introduce facts and those that cite them are told word for
word, and such citations stand in the lines that close the innermost block. -/
theorem labels_statements {preferences : Preferences} {trace : String} {summary : Summary}
    {session : Session}
    (accepted : Session.runText trace (Session.new .tableau preferences none) =
      .ok summary session) :
    let clauses := Clause.onLines 1 (Session.textLines trace)
    let count := (Clause.derivedOf clauses).length
    session.script.statements.filterMap introduced? = facts clauses ∧
      ((facts clauses).Nodup ↔
        ∀ root ∈ clauses, root.isRoot = true → ∀ number, 1 ≤ number → number ≤ count →
          root.name ≠ ruleName number) ∧
      captured session.script.statements =
        capturedByRules clauses count ++ capturedByConclusion clauses ∧
      (captured session.script.statements = [] ↔
        (∀ name ∈ Clause.theoryOf clauses, name ∉ ruleNames count) ∧
          ∀ tip ∈ tips clauses, tip ∉ ruleNames (count + 1)) ∧
      Worded clauses session.script ∧
      ∀ line ∈ session.script.lines.toList, ∀ name,
        (line.statement, name) ∈ captured session.script.statements →
          unindented line.written ∈ closingTexts clauses := by
  intro clauses count
  obtain ⟨closed, suited⟩ := Session.closed_of_runText accepted
  have fallen := captured_of_closed closed
  refine ⟨names_of_closed closed suited, nodup_facts closed.ordered, fallen, ?_,
    worded_of_closed closed suited, fun line _ name => written_of_captured closed⟩
  -- Nothing is captured exactly if neither the rules nor the conclusion lose a citation.
  rw [fallen, List.append_eq_nil_iff, capturedByRules_eq_nil, capturedByConclusion_eq_nil]

/-- The facts in the script for the sample are named apart, and all its citations are of the clauses
that were meant. -/
theorem labels_statements_sample :
    ∃ summary session,
      Session.runText Session.sample (Session.new .tableau {} none) = .ok summary session ∧
        (session.script.statements.filterMap introduced?).Nodup ∧
        captured session.script.statements = [] := by
  obtain ⟨summary, session, accepted⟩ := Session.runText_sample .tableau
  obtain ⟨names, -, -, apart, -⟩ := labels_statements accepted
  -- Its only root has a name without a number.
  have distinct : (facts (Clause.onLines 1 (Session.textLines Session.sample))).Nodup := by
    decide +kernel
  -- Nor does the theory or a tip have the name of a rule.
  have theory : ∀ name ∈ Clause.theoryOf (Clause.onLines 1 (Session.textLines Session.sample)),
      name ∉ ruleNames
        (Clause.derivedOf (Clause.onLines 1 (Session.textLines Session.sample))).length := by
    decide +kernel
  have tips : ∀ tip ∈ tips (Clause.onLines 1 (Session.textLines Session.sample)),
      tip ∉ ruleNames
        ((Clause.derivedOf (Clause.onLines 1 (Session.textLines Session.sample))).length + 1) := by
    decide +kernel
  exact ⟨summary, session, accepted, names ▸ distinct, apart.mpr ⟨theory, tips⟩⟩

/-- A trace whose only root has the name of the first rule. -/
def rootNamedAsRule : String :=
  "cnf(r1,axiom,p,file(f)).\ncnf(b,plain,q,[r1]).\ncnf(c,plain,$false,[b])."

/-- The script for this trace introduces two facts of one name, so that the second rule and the
conclusion cite the first rule where they mean the root. -/
theorem labels_rootNamedAsRule :
    ∃ summary session,
      Session.runText rootNamedAsRule (Session.new .tableau {} none) = .ok summary session ∧
        session.script.statements.filterMap introduced? = ["r1", "r1", "r2"] ∧
        captured session.script.statements =
          [(.rule 2 ["b"] ["r1", "r1"], "r1"), (.ruleConclusion ["r1"] 2, "r1")] ∧
        (session.script.lines.toList.filter (·.statement.isDeduction)).map (unindented ·.written) =
          ["let ?b = \"q\"", "let ?c = \"False\"",
            "have r1: \"?b ==> False\" using r1 by metis",
            "have r2: \"?b ==> False\" using r1 r1 by metis",
            "from r1 show False by (rule r2)"] := by
  have accepts : Session.accepts .tableau rootNamedAsRule = true := by
    decide +kernel
  obtain ⟨summary, session, accepted⟩ := Session.runText_of_accepts accepts
  obtain ⟨closed, suited⟩ := Session.closed_of_runText accepted
  refine ⟨summary, session, accepted, ?_⟩
  -- The facts, the citations and the words are told from the clauses, which are read off the text.
  rw [names_of_closed closed suited, captured_of_closed closed,
    (worded_of_closed closed suited).deductions]
  decide +kernel

end Tableau

end Retrace
