import Retrace.Proofs.Session.Figures
import Retrace.Proofs.Tableau.Soundness
import Retrace.Proofs.Tableau.Wording

/-!
What the conclusion of a tableau cites, read as propositions: the tips entail the premises of the
last rule exactly if every clause of the final core is cited itself or has all of its roots cited.
-/

namespace Retrace

namespace Statement

/-- The tips of a conclusion by a rule, and the number of the rule. -/
def ruleConclusion? : Statement → Option (List String × Nat)
  | ruleConclusion tips number => some (tips, number)
  | _ => none

/-- A conclusion by a rule is a deduction. -/
theorem ruleConclusion?_of_not_isDeduction {statement : Statement}
    (other : statement.isDeduction = false) : statement.ruleConclusion? = none := by
  cases statement <;> simp_all [isDeduction, isConclusion, ruleConclusion?]

end Statement

namespace Tableau

/-- What can be derived from given names: these names, and every derived clause whose parents can. -/
inductive Derivable (clauses : List Clause) (given : List String) : String → Prop
  | given {name : String} (cited : name ∈ given) : Derivable clauses given name
  | step {clause : Clause} (derived : clause ∈ Clause.derivedOf clauses)
      (parents : ∀ parent ∈ clause.parents, Derivable clauses given parent) :
      Derivable clauses given clause.name

/-- Given names entail others if every valuation that respects the clauses and makes the given names
true makes the others true. -/
def Entails (clauses : List Clause) (given names : List String) : Prop :=
  ∀ valuation : String → Prop, Respects valuation clauses → (∀ name ∈ given, valuation name) →
    ∀ name ∈ names, valuation name

variable {clauses : List Clause} {given names : List String}

/-- What can be derived is true wherever the given names are. -/
theorem Derivable.holds {valuation : String → Prop} (respects : Respects valuation clauses)
    (holds : ∀ name ∈ given, valuation name) {name : String}
    (derivable : Derivable clauses given name) : valuation name := by
  induction derivable with
  | given cited => exact holds _ cited
  | step derived _ ih => exact respects _ derived ih

/-- Given names entail exactly what can be derived from them. -/
theorem entails_iff :
    Entails clauses given names ↔ ∀ name ∈ names, Derivable clauses given name := by
  constructor
  · intro entails
    -- To be derivable is a valuation, and the least one that makes the given names true.
    exact entails (Derivable clauses given) (fun _ => .step) fun _ => .given
  · intro derivable valuation respects holds name member
    exact (derivable name member).holds respects holds

/-- A clause that can be derived is given, or its parents can be derived. -/
theorem Derivable.given_or_parents (ordered : Clause.Ordered clauses) {clause : Clause}
    (member : clause ∈ clauses) (derivable : Derivable clauses given clause.name) :
    clause.name ∈ given ∨
      clause.isDerived = true ∧ ∀ parent ∈ clause.parents, Derivable clauses given parent := by
  generalize named : clause.name = name at derivable ⊢
  cases derivable with
  | given cited => exact .inl cited
  | step derived parents =>
    -- There is no other clause of this name.
    obtain ⟨inside, kind⟩ := List.mem_filter.mp derived
    obtain rfl := ordered.eq_of_name member inside named
    exact .inr ⟨kind, parents⟩

/-- A root can be derived only if it is given. -/
theorem Derivable.given_of_isRoot (ordered : Clause.Ordered clauses) {root : Clause}
    (member : root ∈ clauses) (isRoot : root.isRoot = true)
    (derivable : Derivable clauses given root.name) : root.name ∈ given := by
  rcases derivable.given_or_parents ordered member with cited | ⟨kind, -⟩
  · exact cited
  · simp [Clause.isDerived, isRoot] at kind

/-- Every clause of the final core is cited itself, or all of its roots are. -/
def CitesRoots (clauses : List Clause) (cited : List String) : Prop :=
  ∀ clause ∈ coreClauses clauses (Clause.derivedOf clauses).length,
    clause.name ∈ cited ∨
      ∀ root ∈ clauses, root.isRoot = true → root.name ∈ clause.parents → root.name ∈ cited

instance (clauses : List Clause) (cited : List String) : Decidable (CitesRoots clauses cited) :=
  inferInstanceAs (Decidable (∀ clause ∈ coreClauses clauses (Clause.derivedOf clauses).length,
    clause.name ∈ cited ∨ ∀ root ∈ clauses, root.isRoot = true →
      root.name ∈ clause.parents → root.name ∈ cited))

variable {cited : List String}

/-- If the roots of the core are cited, every derived clause can be derived from what is cited. -/
theorem CitesRoots.derivable (cites : CitesRoots clauses cited) (ordered : Clause.Ordered clauses)
    (before : List Clause) :
    ∀ clause after, clauses = before ++ clause :: after → clause.isDerived = true →
      Derivable clauses cited clause.name := by
  -- Parents come earlier, so the induction is on how many clauses stand before.
  induction size : before.length using Nat.strongRecOn generalizing before with
  | _ count ih =>
    intro clause after split kind
    have member : clause ∈ clauses := by simp [split]
    have derived : clause ∈ Clause.derivedOf clauses := List.mem_filter.mpr ⟨member, kind⟩
    by_cases mentioned : clause.name ∈ cited
    · exact .given mentioned
    refine .step derived fun parent among => ?_
    obtain ⟨other, earlier, rfl⟩ :=
      List.mem_map.mp (ordered.earlier before clause after split parent among)
    by_cases isRoot : other.isRoot = true
    · -- A clause with a root is in the core, and it is not cited itself.
      have inside : other ∈ clauses := by simp [split, earlier]
      have rests : clause.restsOnRoot clauses = true :=
        Clause.restsOnRoot_iff.mpr ⟨other, inside, isRoot, among⟩
      have core : clause ∈ coreClauses clauses (Clause.derivedOf clauses).length := by
        rw [coreClauses_length]
        exact List.mem_filter.mpr ⟨List.mem_reverse.mpr derived, rests⟩
      exact .given ((cites clause core).resolve_left mentioned other inside isRoot among)
    · -- A derived parent stands closer to the beginning.
      obtain ⟨front, between, rfl⟩ := List.append_of_mem earlier
      refine ih front.length ?_ front rfl other (between ++ clause :: after) (by simp [split]) ?_
      · rw [← size, List.length_append, List.length_cons]
        omega
      · simp [Clause.isDerived, isRoot]

/-- Names that are cited entail the final core exactly if the roots of the core are among them. -/
theorem entails_core_iff (ordered : Clause.Ordered clauses) :
    Entails clauses cited
        ((coreClauses clauses (Clause.derivedOf clauses).length).map Clause.name) ↔
      CitesRoots clauses cited := by
  have inCore {clause : Clause}
      (core : clause ∈ coreClauses clauses (Clause.derivedOf clauses).length) :
      clause ∈ Clause.derivedOf clauses := by
    rw [coreClauses_length] at core
    exact List.mem_reverse.mp (List.mem_filter.mp core).1
  rw [entails_iff]
  constructor
  · intro derivable clause core
    have member := (List.mem_filter.mp (inCore core)).1
    -- A clause that is not cited can only be derived from all of its parents, the roots included.
    refine ((derivable _ (List.mem_map_of_mem core)).given_or_parents ordered member).imp_right ?_
    rintro ⟨-, parents⟩ root inside isRoot among
    exact (parents root.name among).given_of_isRoot ordered inside isRoot
  · -- Every member of the core is a derived clause, and all of these can be derived.
    intro cites name among
    obtain ⟨clause, core, rfl⟩ := List.mem_map.mp among
    obtain ⟨member, kind⟩ := List.mem_filter.mp (inCore core)
    obtain ⟨before, after, split⟩ := List.append_of_mem member
    exact cites.derivable ordered before clause after split kind

/-- Once the last derived clause is taken none is left to wait, so the premises of its rule are the
final core. -/
theorem rule?_ruleNumbered_length (clauses : List Clause) :
    (ruleNumbered clauses (Clause.derivedOf clauses).length).rule? =
      some ((Clause.derivedOf clauses).length,
        (coreClauses clauses (Clause.derivedOf clauses).length).map Clause.name) := by
  simp [ruleNumbered, Statement.rule?]

variable {preferences : Preferences} {texts : List String} {session : Session}

/-- In a closed script with derived clauses, the conclusion cites the tips and applies the last rule,
whose premises are the final core. -/
theorem conclusion_of_closed (closed : Session.Closed .tableau preferences texts clauses session)
    (derives : Clause.derivedOf clauses ≠ []) :
    session.script.statements.filterMap Statement.ruleConclusion? =
        [(tips clauses, (Clause.derivedOf clauses).length)] ∧
      session.script.rules.getLast? = some ((Clause.derivedOf clauses).length,
        (coreClauses clauses (Clause.derivedOf clauses).length).map Clause.name) := by
  have ordered := closed.ordered
  obtain rfl := closed.entered
  have positive := List.length_pos_iff.mpr derives
  constructor
  · rw [Script.statements, List.filterMap_map, filterMap_of_closed closed _
      (fun _ => Statement.ruleConclusion?_of_not_isDeduction) fun _ _ => rfl,
      closing_eq ordered derives, List.filterMap_append, List.filterMap_map]
    -- No rule concludes.
    have rules : (List.range' 1 (Clause.derivedOf session.graph.toList).length).filterMap
        (Statement.ruleConclusion? ∘ ruleNumbered session.graph.toList) = [] :=
      List.filterMap_eq_nil_iff.mpr fun _ _ => rfl
    rw [rules]
    rfl
  · rw [Script.rules, filterMap_of_closed closed _
      (fun _ => Statement.rule?_of_not_isDeduction) fun _ _ => rfl, closing_eq ordered derives,
      List.filterMap_append, List.filterMap_map]
    -- The last number is that of all derived clauses, and only the conclusion follows.
    have numbers : List.range' 1 (Clause.derivedOf session.graph.toList).length =
        List.range' 1 ((Clause.derivedOf session.graph.toList).length - 1) ++
          [(Clause.derivedOf session.graph.toList).length] := by
      obtain ⟨count, counted⟩ := Nat.exists_eq_add_of_lt positive
      rw [counted, Nat.zero_add, Nat.add_sub_cancel, List.range'_1_concat, Nat.add_comm 1]
    have last := rule?_ruleNumbered_length session.graph.toList
    have concludes : [Statement.ruleConclusion (tips session.graph.toList)
        (Clause.derivedOf session.graph.toList).length].filterMap Statement.rule? = [] := rfl
    rw [concludes, List.append_nil, numbers, List.filterMap_append]
    simp [last]

/-- In a closed script with derived clauses, the line that concludes is written from the tips. -/
theorem conclusion_written (closed : Session.Closed .tableau preferences texts clauses session)
    (derives : Clause.derivedOf clauses ≠ []) :
    (session.script.lines.toList.filter (·.statement.isConclusion)).map (unindented ·.written) =
      [conclusionText clauses] := by
  have ordered := closed.ordered
  obtain rfl := closed.entered
  -- Of all deductions, neither the abbreviations nor the rules conclude.
  have steps := Statement.filter_map_eq_nil Statement.isConclusion (Method.statement .tableau)
    (Clause.derivedOf session.graph.toList) fun _ => rfl
  have rules := Statement.filter_map_eq_nil Statement.isConclusion
    (ruleNumbered session.graph.toList)
    (List.range' 1 (Clause.derivedOf session.graph.toList).length) fun _ => rfl
  -- A conclusion is a deduction that is neither a remark nor echoed.
  rw [Script.filter_written _ _ fun statement last => ?_,
    closed.filter_deductions _ fun statement last => ?_, List.filter_append, steps,
    closing_eq ordered derives, List.filter_append, rules]
  · exact congrArg (fun text => [text]) (text_ruleConclusion (tips_ne_nil ordered derives))
  · rw [Statement.isDeduction, last, Bool.or_true]
  · cases statement <;> first | exact ⟨rfl, rfl⟩ | cases last

/-- In the script for an accepted trace with derived clauses, the conclusion cites the tips of the
final core and applies the last rule, whose premises are the core that is reported. What it cites
entails these premises exactly if every clause of the core is cited itself or has all of its roots
cited. -/
theorem conclusion_entailed_iff {preferences : Preferences} {trace : String} {summary : Summary}
    {session : Session}
    (accepted : Session.runText trace (Session.new .tableau preferences none) =
      .ok summary session)
    (derives : Clause.derivedOf (Clause.onLines 1 (Session.textLines trace)) ≠ []) :
    let clauses := Clause.onLines 1 (Session.textLines trace)
    let count := (Clause.derivedOf clauses).length
    session.script.statements.filterMap Statement.ruleConclusion? = [(tips clauses, count)] ∧
      (session.script.lines.toList.filter (·.statement.isConclusion)).map (unindented ·.written) =
        [conclusionText clauses] ∧
      session.script.rules.getLast? = some (count, summary.core) ∧
      summary.core = (coreClauses clauses count).map Clause.name ∧
      (Entails clauses (tips clauses) summary.core ↔ CitesRoots clauses (tips clauses)) := by
  intro clauses count
  obtain ⟨closed, -⟩ := Session.closed_of_runText accepted
  obtain ⟨graph, entered, ordered, rfl⟩ := Session.summary_of_runText accepted
  obtain ⟨concludes, last⟩ := conclusion_of_closed closed derives
  -- The core that is reported is that of the drain in closed form.
  have core : (Method.report .tableau graph).core = (coreClauses clauses count).map Clause.name := by
    rw [report_eq (entered ▸ ordered), drained, entered]
  refine ⟨concludes, conclusion_written closed derives, ?_, core, ?_⟩
  · rw [core, last]
  · rw [core]
    exact entails_core_iff ordered

/-- In the script for the sample, what the conclusion cites entails the premises of the last rule. -/
theorem conclusion_entailed_sample :
    ∃ summary session,
      Session.runText Session.sample (Session.new .tableau {} none) = .ok summary session ∧
        Clause.derivedOf (Clause.onLines 1 (Session.textLines Session.sample)) ≠ [] ∧
        session.script.statements.filterMap Statement.ruleConclusion? = [(["a", "a"], 2)] ∧
        session.script.rules.getLast? = some (2, ["c", "b"]) ∧
        Entails (Clause.onLines 1 (Session.textLines Session.sample)) ["a", "a"] ["c", "b"] := by
  obtain ⟨summary, session, accepted⟩ := Session.runText_sample .tableau
  have derives : Clause.derivedOf (Clause.onLines 1 (Session.textLines Session.sample)) ≠ [] := by
    decide +kernel
  obtain ⟨concludes, -, last, core, entailed⟩ := conclusion_entailed_iff accepted derives
  -- Its only root is the first parent of both derived clauses.
  have told : tips (Clause.onLines 1 (Session.textLines Session.sample)) = ["a", "a"] ∧
      (Clause.derivedOf (Clause.onLines 1 (Session.textLines Session.sample))).length = 2 ∧
      (coreClauses (Clause.onLines 1 (Session.textLines Session.sample)) 2).map Clause.name =
        ["c", "b"] ∧
      CitesRoots (Clause.onLines 1 (Session.textLines Session.sample)) ["a", "a"] := by
    decide +kernel
  obtain ⟨cited, two, names, cites⟩ := told
  -- The general statement, told with these names and numbers.
  rw [two, names] at core
  rw [cited, two] at concludes
  rw [two, core] at last
  rw [cited, core] at entailed
  exact ⟨summary, session, accepted, derives, concludes, last, entailed.mpr cites⟩

/-- A trace whose only derived clause cites two roots. -/
def twoRoots : String :=
  "cnf(a,axiom,p,file(f)).\ncnf(b,axiom,q,file(f)).\ncnf(c,plain,$false,[a,b])."

/-- The conclusion of the script for this trace cites the first root only, and with the other root
false the premise of the rule may be false as well. -/
theorem conclusion_twoRoots :
    ∃ summary session,
      Session.runText twoRoots (Session.new .tableau {} none) = .ok summary session ∧
        session.script.statements.filterMap Statement.ruleConclusion? = [(["a"], 1)] ∧
        (session.script.lines.toList.filter (·.statement.isConclusion)).map (unindented ·.written) =
          ["from a show False by (rule r1)"] ∧
        session.script.rules.getLast? = some (1, ["c"]) ∧
        ¬ Entails (Clause.onLines 1 (Session.textLines twoRoots)) ["a"] ["c"] := by
  have accepts : Session.accepts .tableau twoRoots = true := by
    decide +kernel
  obtain ⟨summary, session, accepted⟩ := Session.runText_of_accepts accepts
  obtain ⟨closed, -⟩ := Session.closed_of_runText accepted
  have ordered := closed.ordered
  -- The clauses are read off the trace once, and the second root is not among the tips.
  have told : Clause.derivedOf (Clause.onLines 1 (Session.textLines twoRoots)) ≠ [] ∧
      conclusionText (Clause.onLines 1 (Session.textLines twoRoots)) =
        "from a show False by (rule r1)" ∧
      tips (Clause.onLines 1 (Session.textLines twoRoots)) = ["a"] ∧
      (Clause.derivedOf (Clause.onLines 1 (Session.textLines twoRoots))).length = 1 ∧
      (coreClauses (Clause.onLines 1 (Session.textLines twoRoots)) 1).map Clause.name = ["c"] ∧
      ¬ CitesRoots (Clause.onLines 1 (Session.textLines twoRoots)) ["a"] := by
    decide +kernel
  generalize Clause.onLines 1 (Session.textLines twoRoots) = clauses at closed ordered told ⊢
  obtain ⟨derives, words, tips, count, core, uncited⟩ := told
  obtain ⟨concludes, last⟩ := conclusion_of_closed closed derives
  rw [tips, count] at concludes
  rw [count, core] at last
  -- The missing root is what keeps the core from being entailed.
  rw [← entails_core_iff ordered, count, core] at uncited
  have written := conclusion_written closed derives
  rw [words] at written
  exact ⟨summary, session, accepted, concludes, written, last, uncited⟩

end Tableau

end Retrace
