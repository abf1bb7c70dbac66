import Retrace.Proofs.Session.Run

/-!
The rules of a tableau, read as propositions: each is refuted if the one before it is, and the first
is refuted if the last derived clause is false.
-/

namespace Retrace

/-- The number and the premises of a rule. -/
def Statement.rule? : Statement → Option (Nat × List String)
  | rule number premises _ => some (number, premises)
  | _ => none

/-- The numbers and the premises of the rules of a script, in the order of the script. -/
def Script.rules (script : Script) : List (Nat × List String) :=
  script.lines.toList.filterMap (Statement.rule? ∘ Line.statement)

/-- A statement with a rule is a deduction. -/
theorem Statement.rule?_of_not_isDeduction {statement : Statement}
    (other : statement.isDeduction = false) : statement.rule? = none := by
  cases statement <;> simp_all [isDeduction, isStep, rule?]

namespace Tableau

/-- The numbers and the premises of the rules written while the waiting clauses are taken. -/
def rulesFrom (graph : Graph) (earlier : Nat) (core : List String) :
    List String → List (Nat × List String)
  | [] => []
  | top :: below =>
    (earlier + 1, coreAfter graph core top below ++ below.reverse) ::
      rulesFrom graph (earlier + 1) (coreAfter graph core top below) below

/-- The numbers and the premises are those of the rule statements. -/
theorem rules_ruleStatements (graph : Graph) (theory : List String) (waiting : List String) :
    ∀ (earlier : Nat) (core : List String),
      (ruleStatements graph theory earlier core waiting).filterMap Statement.rule? =
        rulesFrom graph earlier core waiting := by
  induction waiting with
  | nil => simp [ruleStatements, rulesFrom]
  | cons top below ih =>
    -- The names of the facts play no part.
    intro earlier core
    simp [ruleStatements, rulesFrom, Statement.rule?, ih]

/-- The rules are numbered one after the other. -/
theorem numbers_rulesFrom (graph : Graph) (waiting : List String) :
    ∀ (earlier : Nat) (core : List String),
      (rulesFrom graph earlier core waiting).map Prod.fst =
        List.range' (earlier + 1) waiting.length := by
  induction waiting with
  | nil => simp [rulesFrom]
  | cons top below ih =>
    -- Each rule is numbered by the rules before it.
    intro earlier core
    simp [rulesFrom, ih, List.range'_succ]

/-- A valuation respects clauses if each derived one is true whenever all of its parents are. -/
def Respects (valuation : String → Prop) (clauses : List Clause) : Prop :=
  ∀ clause ∈ Clause.derivedOf clauses,
    (∀ parent ∈ clause.parents, valuation parent) → valuation clause.name

/-- A valuation refutes premises that are not all true. -/
def Refutes (valuation : String → Prop) (premises : List String) : Prop :=
  ¬ ∀ premise ∈ premises, valuation premise

variable {graph : Graph} {valuation : String → Prop}

/-- Taking a clause keeps the core and the waiting clauses refuted: a clause is left out of the core
only if what still waits entails it. -/
theorem refutes_coreAfter (ordered : Clause.Ordered graph.toList)
    (respects : Respects valuation graph.toList)
    {core below : List String} {clause : Clause} (member : clause ∈ Clause.derivedOf graph.toList)
    (refuted : Refutes valuation (core ++ (clause.name :: below).reverse)) :
    Refutes valuation (coreAfter graph core clause.name below ++ below.reverse) := by
  have inside : clause ∈ graph.toList := (List.mem_filter.mp member).1
  -- Suppose that all premises of the rule are true.
  intro holds
  have waits : ∀ name ∈ below, valuation name := by
    intro name among
    exact holds name (by simp [among])
  have top : valuation clause.name := by
    by_cases redundant : isRedundant graph (clause.name :: below) clause.name = true
    · -- All parents wait, and the clause is not among its own parents.
      rw [isRedundant, Graph.get?_name ordered inside] at redundant
      refine respects clause member fun parent cited => ?_
      have waiting := List.all_eq_true.mp redundant parent cited
      rw [List.contains_iff_mem, List.mem_cons] at waiting
      rcases waiting with rfl | later
      · exact absurd cited (ordered.name_notMem_parents inside)
      · exact waits parent later
    · exact holds clause.name (by simp [coreAfter, redundant])
  have kept : ∀ name ∈ core, valuation name := by
    intro name among
    refine holds name (List.mem_append_left _ ?_)
    unfold coreAfter
    split <;> simp [among]
  -- Before the clause was taken, all premises were true as well.
  refine refuted fun name among => ?_
  rw [List.reverse_cons, List.mem_append, List.mem_append, List.mem_reverse,
    List.mem_singleton] at among
  rcases among with old | later | rfl
  · exact kept name old
  · exact waits name later
  · exact top

/-- If the core and the waiting clauses are refuted, so is the first rule, and every rule refutes
the next one. -/
theorem refutes_rulesFrom (ordered : Clause.Ordered graph.toList)
    (respects : Respects valuation graph.toList)
    (waiting : List Clause) :
    ∀ (earlier : Nat) (core : List String),
      (∀ clause ∈ waiting, clause ∈ Clause.derivedOf graph.toList) →
      let rules := rulesFrom graph earlier core (waiting.map Clause.name)
      (∀ premises, (earlier + 1, premises) ∈ rules →
          Refutes valuation (core ++ (waiting.map Clause.name).reverse) →
          Refutes valuation premises) ∧
        ∀ number premises next, (number, premises) ∈ rules → (number + 1, next) ∈ rules →
          Refutes valuation premises → Refutes valuation next := by
  -- The premises of a rule are what the next clause is taken from.
  induction waiting with
  | nil => simp [rulesFrom]
  | cons clause below ih =>
    intro earlier core derived
    obtain ⟨start, chain⟩ := ih (earlier + 1) (coreAfter graph core clause.name
      (below.map Clause.name)) fun other among => derived other (List.mem_cons_of_mem _ among)
    -- The rules below have larger numbers, so that none is mistaken for the first.
    have later (number : Nat) (premises : List String)
        (among : (number, premises) ∈ rulesFrom graph (earlier + 1) (coreAfter graph core clause.name
          (below.map Clause.name)) (below.map Clause.name)) : earlier + 2 ≤ number := by
      have numbered := List.mem_map_of_mem (f := Prod.fst) among
      rw [numbers_rulesFrom, List.mem_range'_1] at numbered
      exact numbered.1
    simp only [List.map_cons, rulesFrom, List.mem_cons, Prod.mk.injEq]
    constructor
    · rintro premises (⟨-, rfl⟩ | among) refuted
      · exact refutes_coreAfter ordered respects (derived clause List.mem_cons_self) refuted
      · have bound := later _ _ among
        omega
    · rintro number premises next (⟨rfl, rfl⟩ | among) (⟨same, rfl⟩ | following) refuted
      · exact refuted
      · exact start next following refuted
      · have bound := later _ _ among
        omega
      · exact chain number premises next among following refuted

/-- What is read off deductions other than abbreviations is read off those that close a tableau. -/
theorem filterMap_of_closed {α : Type} {preferences : Preferences} {texts : List String}
    {clauses : List Clause} {session : Session}
    (closed : Session.Closed .tableau preferences texts clauses session)
    (read : Statement → Option α)
    (skips : ∀ statement : Statement, statement.isDeduction = false → read statement = none)
    (abbreviated : ∀ name formula, read (.abbreviation name formula) = none) :
    session.script.lines.toList.filterMap (read ∘ Line.statement) =
      (Method.closing .tableau session.graph).filterMap read := by
  -- Before the stack is taken down, the block holds assumptions and abbreviations only.
  have gathered : (Draft.begun (Draft.ofClauses (Method.statement .tableau)
      session.graph.toList)).body.filterMap read = [] := by
    rw [List.filterMap_eq_nil_iff]
    intro statement member
    rcases Draft.mem_body_ofClauses member with assumed | ⟨clause, -, -, rfl⟩
    · refine skips statement ?_
      cases statement <;> first | rfl | cases assumed
    · exact abbreviated clause.name clause.formula
  rw [← Script.filterMap_proofLines read (fun _ => skips _ rfl), closed.proofLines,
    ← List.filterMap_map, Draft.filterMap_closedLines read skips, Method.finalDraft,
    Draft.body_deduce, List.filterMap_append, gathered, List.nil_append]

/-- The rules of a closed tableau are those for the derived clauses of its graph. -/
theorem rules_of_closed {preferences : Preferences} {texts : List String} {clauses : List Clause}
    {session : Session} (closed : Session.Closed .tableau preferences texts clauses session) :
    session.script.rules = rulesFrom session.graph 0 [] (Clause.waitingOf clauses) := by
  rw [Script.rules, filterMap_of_closed closed _ (fun _ => Statement.rule?_of_not_isDeduction)
    fun _ _ => rfl, Method.closing, closed.entered, closingStatements]
  -- Without a waiting clause there is no rule.
  by_cases empty : (Clause.waitingOf clauses).isEmpty = true
  · rw [if_pos empty, List.isEmpty_iff.mp empty]
    rfl
  · rw [if_neg empty, List.filterMap_append, rules_ruleStatements]
    simp [Statement.rule?]

/-- The rules of an accepted trace are numbered from one, one for each derived clause. A valuation
that respects the trace and makes the last derived clause false refutes the first rule, and every
rule that it refutes makes it refute the next one; so it refutes them all. -/
theorem refutes_rules {preferences : Preferences} {trace : String} {summary : Summary}
    {session : Session}
    (accepted : Session.runText trace (Session.new .tableau preferences none) =
      .ok summary session)
    {valuation : String → Prop}
    (respects : Respects valuation (Clause.onLines 1 (Session.textLines trace)))
    {last : Clause}
    (final : (Clause.derivedOf (Clause.onLines 1 (Session.textLines trace))).getLast? =
      some last) :
    session.script.rules.map Prod.fst =
        List.range' 1 (Clause.derivedOf (Clause.onLines 1 (Session.textLines trace))).length ∧
      (∀ premises, (1, premises) ∈ session.script.rules →
        ¬ valuation last.name → Refutes valuation premises) ∧
      (∀ number premises next, (number, premises) ∈ session.script.rules →
        (number + 1, next) ∈ session.script.rules →
        Refutes valuation premises → Refutes valuation next) ∧
      (¬ valuation last.name → ∀ number premises, (number, premises) ∈ session.script.rules →
        Refutes valuation premises) := by
  -- An accepted trace leaves a closed session, whose graph is in order.
  obtain ⟨closed, -⟩ := Session.closed_of_runText accepted
  have rules := rules_of_closed closed
  have ordered := closed.ordered
  rw [← closed.entered] at ordered respects rules final ⊢
  -- The rules are those for the derived clauses, taken from the last one on.
  have numbers : session.script.rules.map Prod.fst =
      List.range' 1 (Clause.derivedOf session.graph.toList).length := by
    rw [rules, numbers_rulesFrom, Clause.waitingOf, List.length_reverse, List.length_map]
  rw [Clause.waitingOf, ← List.map_reverse] at rules
  obtain ⟨start, chain⟩ := refutes_rulesFrom ordered respects
    (Clause.derivedOf session.graph.toList).reverse 0 [] (by simp)
  rw [← rules] at start chain
  have first (premises : List String) (among : (1, premises) ∈ session.script.rules)
      (absurd : ¬ valuation last.name) : Refutes valuation premises := by
    -- The last derived clause is one of those that wait when the first rule is written.
    refine start premises among fun holds => absurd (holds last.name ?_)
    have member := List.mem_of_getLast? final
    simpa using ⟨last, member, rfl⟩
  refine ⟨numbers, first, chain, fun absurd number => ?_⟩
  -- Along the numbers, every rule is refuted because the one before it is.
  induction number with
  | zero =>
    intro premises among
    have numbered := List.mem_map_of_mem (f := Prod.fst) among
    rw [numbers, List.mem_range'_1] at numbered
    omega
  | succ number ih =>
    intro premises among
    cases number with
    | zero => exact first premises among absurd
    | succ number =>
      have numbered := List.mem_map_of_mem (f := Prod.fst) among
      rw [numbers, List.mem_range'_1] at numbered
      -- The rule with the number before is written as well.
      have before : number + 1 ∈ session.script.rules.map Prod.fst := by
        rw [numbers, List.mem_range'_1]
        omega
      obtain ⟨⟨_, previous⟩, inside, rfl⟩ := List.mem_map.mp before
      exact chain _ previous premises inside among (ih previous inside)

/-- If every clause is false, the two rules for the sample are refuted. -/
theorem refutes_rules_sample :
    ∃ summary session,
      Session.runText Session.sample (Session.new .tableau {} none) = .ok summary session ∧
        session.script.rules.map Prod.fst = [1, 2] ∧
        ∀ number premises, (number, premises) ∈ session.script.rules →
          Refutes (fun _ => False) premises := by
  obtain ⟨summary, session, accepted⟩ := Session.runText_sample .tableau
  -- Both steps have a parent, so they may be false together with it.
  have cites : (Clause.derivedOf (Clause.onLines 1 (Session.textLines Session.sample))).all
      (! ·.parents.isEmpty) = true := by
    decide +kernel
  have respects : Respects (fun _ => False)
      (Clause.onLines 1 (Session.textLines Session.sample)) := by
    intro clause member holds
    have cited := List.all_eq_true.mp cites clause member
    cases parents : clause.parents with
    | nil => simp [parents] at cited
    | cons parent others => exact holds parent (by simp [parents])
  have counted : (Clause.derivedOf (Clause.onLines 1 (Session.textLines Session.sample))).length =
      2 := by
    decide +kernel
  -- There are two derived clauses, so there is a last one.
  obtain ⟨last, final⟩ : ∃ last, (Clause.derivedOf (Clause.onLines 1
      (Session.textLines Session.sample))).getLast? = some last := by
    cases found : (Clause.derivedOf (Clause.onLines 1
      (Session.textLines Session.sample))).getLast? with
    | none => simp [List.getLast?_eq_none_iff.mp found] at counted
    | some last => exact ⟨last, rfl⟩
  obtain ⟨numbers, -, -, all⟩ := refutes_rules accepted respects final
  rw [counted] at numbers
  exact ⟨summary, session, accepted, numbers, all not_false⟩

end Tableau

end Retrace
