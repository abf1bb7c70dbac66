import Retrace.Proofs.Outline
import Retrace.Tableau

/-! Draining the stack of a tableau writes a rule for every waiting clause, from the top down. -/

namespace Retrace.Tableau

/-- The core after the topmost of the waiting clauses has been taken. -/
def coreAfter (graph : Graph) (core : List String) (top : String) (below : List String) :
    List String :=
  if isRedundant graph (top :: below) top then core else core ++ [top]

/-- The core after all waiting clauses have been taken, the latest first. -/
def finalCore (graph : Graph) (core : List String) : List String → List String
  | [] => core
  | top :: below => finalCore graph (coreAfter graph core top below) below

/-- The sizes of the core while the waiting clauses are taken. -/
def coreSizes (graph : Graph) (core : List String) : List String → List Nat
  | [] => []
  | top :: below =>
    (coreAfter graph core top below).length ::
      coreSizes graph (coreAfter graph core top below) below

/-- The facts that a rule needs when the given number of rules stands before it. -/
def ruleFacts (earlier : Nat) (theory : List String) : List String :=
  -- The first rule has no other rule to rest on.
  if earlier = 0 then theory else Statement.ruleName earlier :: theory

/-- The rules written while the waiting clauses are taken. The premises of each are the core and
what still waits, the earliest first. -/
def ruleStatements (graph : Graph) (theory : List String) (earlier : Nat) (core : List String) :
    List String → List Statement
  | [] => []
  | top :: below =>
    .rule (earlier + 1) (coreAfter graph core top below ++ below.reverse)
        (ruleFacts earlier theory) ::
      ruleStatements graph theory (earlier + 1) (coreAfter graph core top below) below

/-- The name cited for a member of the core. -/
def tipOf (graph : Graph) (name : String) : String :=
  (graph.tip? name).getD name

/-- The deductions that close a tableau whose stack holds the given clauses. -/
def closingStatements (graph : Graph) (theory waiting : List String) : List Statement :=
  if waiting.isEmpty then [.conclusion false]
  else
    ruleStatements graph theory 0 [] waiting ++
      [.ruleConclusion ((finalCore graph [] waiting).map (tipOf graph)) waiting.length]

/-- Rules are deductions. -/
theorem isStep_of_mem_ruleStatements {graph : Graph} {theory waiting : List String} :
    ∀ {earlier : Nat} {core : List String} {statement : Statement},
      statement ∈ ruleStatements graph theory earlier core waiting → statement.isStep = true := by
  induction waiting with
  | nil => simp [ruleStatements]
  | cons top below ih =>
    intro earlier core statement member
    -- The first statement is a rule, and the others are written for what is below.
    rcases List.mem_cons.mp member with rfl | later
    · rfl
    · exact ih later

/-- The rule that a tableau writes, from the number of rules before it. -/
theorem rule_take (graph : Graph) (top : String) (below : List String) (tableau : Tableau) :
    (take graph top below tableau).rule =
      .rule (tableau.rules + 1) (coreAfter graph tableau.core top below ++ below.reverse)
        (ruleFacts tableau.rules tableau.outline.theory) := by
  -- A rule rests on the one before it exactly if it is not the first.
  by_cases first : tableau.rules = 0
  · simp [rule, take, coreAfter, ruleFacts, first]
  · have later : 1 < tableau.rules + 1 := by omega
    simp only [rule, take, coreAfter, ruleFacts, if_pos later, if_neg first, Nat.add_sub_cancel,
      List.singleton_append]

/-- The tableau with one more line. -/
def push (statement : Statement) (tableau : Tableau) : Tableau :=
  { tableau with outline := tableau.outline.push statement }

variable {label : Option String} {remarks : List Statement} {premises : List Clause}
  {conjecture : Option Clause}

/-- Writing inside a block adds a deduction to what the outline shows. -/
theorem write_ok {tableau : Tableau} {body : List Statement} {statement : Statement}
    (shown : Outline.Shows label remarks (some (.refuting premises conjecture body))
      tableau.outline)
    (deduced : statement.isDeduction = true) :
    onOutline (Outline.write statement) tableau = .ok () (tableau.push statement) :=
  Attempt.onPart_ok (shown.deduce deduced).1

/-- Draining writes the rules, and leaves the core and the number of rules that they end with. -/
theorem drain_ok (graph : Graph) (waiting : List String) :
    ∀ (tableau : Tableau) (body : List Statement),
      Outline.Shows label remarks (some (.refuting premises conjecture body)) tableau.outline →
      ∃ after, drain graph waiting tableau = .ok (coreSizes graph tableau.core waiting) after ∧
        Outline.Shows label remarks (some (.refuting premises conjecture (body ++
          ruleStatements graph tableau.outline.theory tableau.rules tableau.core waiting)))
          after.outline ∧
        after.core = finalCore graph tableau.core waiting ∧
        after.rules = tableau.rules + waiting.length := by
  -- Each clause taken changes the core, counts a rule and writes it.
  induction waiting with
  | nil =>
    intro tableau body shown
    exact ⟨tableau, by simp [drain, coreSizes], by simpa [ruleStatements] using shown,
      rfl, rfl⟩
  | cons top below ih =>
    intro tableau body shown
    have taken : Outline.Shows label remarks (some (.refuting premises conjecture body))
        (take graph top below tableau).outline := shown
    have written := rule_take graph top below tableau
    have deduced : (take graph top below tableau).rule.isDeduction = true := by
      rw [written]
      rfl
    obtain ⟨after, drained, shows, core, rules⟩ :=
      ih ((take graph top below tableau).push (take graph top below tableau).rule) _
        (taken.deduce deduced).2
    refine ⟨after, ?_, ?_, core, ?_⟩
    · -- The size noted for this clause is that of the core which its rule was written with.
      simp only [drain, Attempt.bind_apply, Attempt.modify_apply, Attempt.get_apply,
        write_ok taken deduced, drained, Attempt.pure_apply]
      rfl
    · rw [written] at shows
      simpa [ruleStatements, push, take, coreAfter] using shows
    · rw [rules, List.length_cons]
      simp only [push, take]
      omega

end Retrace.Tableau
