import Retrace.Proofs.Script.Citations
import Retrace.Proofs.Tableau.Wording

/-!
Citations in scripts of a tableau: every rule cites facts that stand before it. The conclusion cites
the first parents of the core, and those of them that are derived clauses have an abbreviation but
are no facts.
-/

namespace Retrace

namespace Statement

/-- The names of the facts that a statement cites: those that it starts from or uses, and the rule
that it applies. -/
def cited : Statement → List String
  | inference parents _ _ => parents
  | rule _ _ facts => facts
  | ruleConclusion tips number => tips ++ [ruleName number]
  | _ => []

/-- The citations of what is no fact, each with the statement that makes it. A statement may cite
what was known before all statements and what is introduced by a statement before it. -/
def dangling (known : List String) (statements : List Statement) : List (Statement × String) :=
  flagged cited introduced? (fun given name => ! given.contains name) known statements

/-- Only deductions cite facts. -/
theorem cited_of_not_isDeduction {statement : Statement} (other : statement.isDeduction = false) :
    statement.cited = [] := by
  cases statement <;> simp_all [isDeduction, isStep, isConclusion, cited]

end Statement

namespace Tableau

open Statement

variable {preferences : Preferences} {texts known : List String} {clauses : List Clause}
  {session : Session}

/-- The names of the facts in a script for the given clauses: the roots, and the rules, of which
there is one for each derived clause. -/
def facts (clauses : List Clause) : List String :=
  (clauses.filter Clause.isRoot).map Clause.name ++
    (List.range' 1 (Clause.derivedOf clauses).length).map ruleName

/-- What stands in a closed script before the deductions that close it, remarks apart. -/
def beforeClosing (label : Option String) (graph : Graph) : List Statement :=
  let draft := Draft.begun (Draft.ofClauses (Method.statement .tableau) graph.toList)
  (draft.deduce (Method.closing .tableau graph)).frame label ++ draft.body

/-- Before it is closed, the script introduces the roots. -/
theorem names_beforeClosing (label : Option String) {graph : Graph}
    (suited : Clause.Suited graph.toList) :
    (beforeClosing label graph).filterMap introduced? =
      (graph.toList.filter Clause.isRoot).map Clause.name := by
  let draft := Draft.begun (Draft.ofClauses (Method.statement .tableau) graph.toList)
  -- The deductions come last, so that they can be taken away from all introductions.
  have all := Draft.introductions_deduce (Method.closing .tableau graph) draft
  rw [Draft.introductions, Draft.body_deduce, ← List.append_assoc, List.filter_append] at all
  have before := List.append_cancel_right all
  have introduces := Draft.introductions_ofClauses .tableau suited
  rw [← before, List.filter_append, ← Draft.introductions_frame label, ← List.filter_append]
    at introduces
  exact names_of_introductions introduces

/-- Before it is closed, the script deduces nothing: it holds assumptions and abbreviations only. -/
theorem mem_beforeClosing {label : Option String} {graph : Graph} {statement : Statement}
    (member : statement ∈ beforeClosing label graph) :
    statement.isDeduction = false ∨ ∃ name formula, statement = .abbreviation name formula := by
  rcases List.mem_append.mp member with frame | body
  · exact .inl (Draft.mem_frame frame).1
  · rcases Draft.mem_body_ofClauses body with assumed | ⟨clause, -, -, rfl⟩
    · cases statement <;> simp_all [isAssumption, isDeduction, isStep, isConclusion]
    · exact .inr ⟨clause.name, clause.formula, rfl⟩

/-- Before it is closed, the script cites nothing. -/
theorem uncited_beforeClosing (label : Option String) (graph : Graph) :
    ∀ statement ∈ beforeClosing label graph, statement.cited = [] := by
  intro statement member
  rcases mem_beforeClosing member with other | ⟨_, _, rfl⟩
  · exact cited_of_not_isDeduction other
  · rfl

/-- The lines that the proof reads in a closed script. -/
theorem proofStatements_of_closed
    (closed : Session.Closed .tableau preferences texts clauses session) :
    session.script.proofLines.map Line.statement =
      beforeClosing preferences.label session.graph ++
        (Method.closing .tableau session.graph ++
          List.replicate (Method.finalDraft .tableau session.graph).openBlocks .blockEnd) := by
  rw [closed.proofLines, Draft.statements_closedLines, beforeClosing, Method.finalDraft,
    Draft.body_deduce, List.append_assoc, List.append_assoc]

/-- In a closed script, only the deductions that close it cite anything. -/
theorem flagged_of_closed (closed : Session.Closed .tableau preferences texts clauses session)
    {cites : Statement → List String} {gives : Statement → Option String}
    (uncited : ∀ statement : Statement, statement.cited = [] → cites statement = [])
    (remarks : ∀ text, gives (.comment text) = none) (test : List String → String → Bool)
    (given : List String) :
    flagged cites gives test given session.script.statements =
      flagged cites gives test
        (given ++ (beforeClosing preferences.label session.graph).filterMap gives)
        (Method.closing .tableau session.graph) := by
  have before := uncited_beforeClosing preferences.label session.graph
  have ends (count : Nat) : ∀ statement ∈ List.replicate count Statement.blockEnd,
      cites statement = [] := by
    intro statement member
    rw [List.eq_of_mem_replicate member]
    exact uncited _ rfl
  -- Remarks are passed over, and the deductions stand between what is uncited.
  rw [← flagged_filter_isRemark fun text => ⟨uncited _ rfl, remarks text⟩,
    Script.filter_statements _ _ fun _ => rfl,
    flagged_filter_isRemark fun text => ⟨uncited _ rfl, remarks text⟩,
    proofStatements_of_closed closed, flagged_append,
    flagged_of_uncited fun statement member => uncited statement (before statement member),
    List.nil_append, flagged_append, flagged_of_uncited (ends _), List.append_nil]

/-- In a closed script, only the deductions that close it can cite what is no fact. -/
theorem dangling_of_closed (closed : Session.Closed .tableau preferences texts clauses session)
    (suited : Clause.Suited clauses) :
    dangling [] session.script.statements =
      dangling ((clauses.filter Clause.isRoot).map Clause.name)
        (Method.closing .tableau session.graph) := by
  obtain rfl := closed.entered
  -- Every citation counts, and what stands before the closing deductions introduces the roots.
  rw [dangling, flagged_of_closed closed (fun _ => id) fun _ => rfl,
    names_beforeClosing preferences.label suited, List.nil_append]
  rfl

/-- The rules up to a number are introduced under their names. -/
theorem names_rules (clauses : List Clause) (count : Nat) :
    ((List.range' 1 count).map (ruleNumbered clauses)).filterMap introduced? =
      (List.range' 1 count).map ruleName := by
  rw [List.filterMap_map]
  exact List.filterMap_eq_map_iff_forall_eq_some.mpr fun _ _ => rfl

/-- Rules cite the theory and the rule before them, and both are facts. -/
theorem dangling_rules (theory : ∀ name ∈ Clause.theoryOf clauses, name ∈ known) (count : Nat) :
    dangling known ((List.range' 1 count).map (ruleNumbered clauses)) = [] := by
  rw [dangling]
  -- The rules are numbered from one, so the induction takes off the last one.
  induction count with
  | zero => rfl
  | succ count ih =>
    have cites : ∀ name ∈ (ruleNumbered clauses (1 + count)).cited,
        name ∈ known ++ (List.range' 1 count).map ruleName := by
      intro name member
      rcases List.mem_append.mp member with earlier | theoretical
      · -- The rule before it is there if it is not the first.
        split at earlier
        · rw [List.mem_singleton.mp earlier]
          refine List.mem_append_right _ (List.mem_map_of_mem ?_)
          rw [List.mem_range'_1]
          omega
        · cases earlier
      · exact List.mem_append_left _ (theory name theoretical)
    have within : (ruleNumbered clauses (1 + count)).cited.filter
        (! (known ++ (List.range' 1 count).map ruleName).contains ·) = [] := by
      rw [List.filter_eq_nil_iff]
      intro name member
      rw [List.contains_iff_mem.mpr (cites name member)]
      exact Bool.false_ne_true
    rw [List.range'_1_concat, List.map_append, flagged_append, ih, names_rules, List.map_singleton,
      flagged, within]
    rfl

/-- In a closed script, the only citations of what is no fact are tips in the conclusion. -/
theorem dangling_tips (closed : Session.Closed .tableau preferences texts clauses session)
    (suited : Clause.Suited clauses) :
    dangling [] session.script.statements =
      ((tips clauses).filter (! (facts clauses).contains ·)).map
        (.ruleConclusion (tips clauses) (Clause.derivedOf clauses).length, ·) := by
  rw [dangling_of_closed closed suited]
  have ordered := closed.ordered
  obtain rfl := closed.entered
  by_cases none : Clause.derivedOf session.graph.toList = []
  · -- Without a derived clause there is neither a rule nor a tip.
    have empty : tips session.graph.toList = [] := by simp [tips, coreClauses, none]
    rw [closing_of_underived none, empty]
    rfl
  · have theory : ∀ name ∈ Clause.theoryOf session.graph.toList,
        name ∈ (session.graph.toList.filter Clause.isRoot).map Clause.name := by
      intro name member
      obtain ⟨clause, standing, rfl⟩ := List.mem_map.mp member
      obtain ⟨among, kind⟩ := List.mem_filter.mp standing
      rw [Clause.isStanding, Bool.and_eq_true] at kind
      exact List.mem_map_of_mem (List.mem_filter.mpr ⟨among, kind.1⟩)
    -- The last rule is a fact as well, for there is a rule.
    have last : ruleName (Clause.derivedOf session.graph.toList).length ∈
        facts session.graph.toList := by
      have positive := List.length_pos_iff.mpr none
      refine List.mem_append_right _ (List.mem_map_of_mem ?_)
      rw [List.mem_range'_1]
      omega
    rw [closing_eq ordered none, dangling, flagged_append, ← dangling, dangling_rules theory,
      names_rules, List.nil_append]
    change dangling (facts session.graph.toList) _ = _
    simp [dangling, flagged, cited, List.filter_append, last]

/-- A line that cites what is no fact is written as the conclusion from the tips. -/
theorem written_of_dangling (closed : Session.Closed .tableau preferences texts clauses session)
    (suited : Clause.Suited clauses) {line : Line} {name : String}
    (cites : (line.statement, name) ∈ dangling [] session.script.statements) :
    unindented line.written = conclusionText clauses := by
  rw [dangling_tips closed suited] at cites
  obtain ⟨tip, among, same⟩ := List.mem_map.mp cites
  obtain ⟨stated, -⟩ := Prod.mk.inj same
  -- The name that is no fact is a tip, so the conclusion says where it starts from.
  rw [← text_ruleConclusion (List.ne_nil_of_mem (List.mem_filter.mp among).1), stated]
  exact Line.unindented_written (stated ▸ rfl) (stated ▸ rfl)

/-- In the script for an accepted trace, every citation of what is no fact is made by the conclusion
and is the tip of a clause in the final core. So all citations are of facts exactly if each derived
clause that cites a root has a root, or else the name of a rule, as its first parent. The lines that
introduce facts and those that cite them are told word for word, and what is no fact is cited by the
line of the conclusion. -/
theorem dangling_statements {preferences : Preferences} {trace : String} {summary : Summary}
    {session : Session}
    (accepted : Session.runText trace (Session.new .tableau preferences none) =
      .ok summary session) :
    let clauses := Clause.onLines 1 (Session.textLines trace)
    dangling [] session.script.statements =
        ((tips clauses).filter (! (facts clauses).contains ·)).map
          (.ruleConclusion (tips clauses) (Clause.derivedOf clauses).length, ·) ∧
      (dangling [] session.script.statements = [] ↔
        ∀ clause ∈ Clause.derivedOf clauses, clause.restsOnRoot clauses = true →
          clause.tip ∈ facts clauses) ∧
      Worded clauses session.script ∧
      ∀ line ∈ session.script.lines.toList, ∀ name,
        (line.statement, name) ∈ dangling [] session.script.statements →
          unindented line.written = conclusionText clauses := by
  intro clauses
  obtain ⟨closed, suited⟩ := Session.closed_of_runText accepted
  have told := dangling_tips closed suited
  refine ⟨told, ?_, worded_of_closed closed suited,
    fun line _ name => written_of_dangling closed suited⟩
  -- The tips are those of the derived clauses that cite a root.
  rw [told, List.map_eq_nil_iff, List.filter_eq_nil_iff, tips, coreClauses_length]
  constructor
  · intro all clause derived rests
    -- Every tip comes from a derived clause that rests on a root, and the other way round.
    have core : clause ∈ (Clause.derivedOf clauses).reverse.filter (Clause.restsOnRoot clauses) :=
      List.mem_filter.mpr ⟨List.mem_reverse.mpr derived, rests⟩
    simpa using all clause.tip (List.mem_map_of_mem core)
  · intro all tip member
    obtain ⟨clause, core, rfl⟩ := List.mem_map.mp member
    obtain ⟨derived, rests⟩ := List.mem_filter.mp core
    simpa using all clause (List.mem_reverse.mp derived) rests

/-- In the script for the sample, every citation is of a fact. -/
theorem dangling_statements_sample :
    ∃ summary session,
      Session.runText Session.sample (Session.new .tableau {} none) = .ok summary session ∧
        dangling [] session.script.statements = [] := by
  obtain ⟨summary, session, accepted⟩ := Session.runText_sample .tableau
  -- Both derived clauses have the root as their first parent.
  have rooted : ∀ clause ∈ Clause.derivedOf (Clause.onLines 1 (Session.textLines Session.sample)),
      clause.tip ∈ facts (Clause.onLines 1 (Session.textLines Session.sample)) := by
    decide +kernel
  exact ⟨summary, session, accepted,
    (dangling_statements accepted).2.1.mpr fun clause derived _ => rooted clause derived⟩

/-- A trace whose last clause cites a derived clause before a root. -/
def derivedFirst : String :=
  "cnf(a,axiom,p,file(f)).\ncnf(b,plain,q,[a]).\ncnf(c,plain,$false,[b,a])."

/-- The conclusion of the script for this trace cites a clause that has an abbreviation only. -/
theorem dangling_derivedFirst :
    ∃ summary session,
      Session.runText derivedFirst (Session.new .tableau {} none) = .ok summary session ∧
        dangling [] session.script.statements = [(.ruleConclusion ["b", "a"] 2, "b")] ∧
        (session.script.lines.toList.filter (·.statement.isDeduction)).map (unindented ·.written) =
          ["let ?b = \"q\"", "let ?c = \"False\"",
            "have r1: \"?c ==> ?b ==> False\" using a by metis",
            "have r2: \"?c ==> ?b ==> False\" using r1 a by metis",
            "from b a show False by (rule r2)"] := by
  have accepts : Session.accepts .tableau derivedFirst = true := by
    decide +kernel
  obtain ⟨summary, session, accepted⟩ := Session.runText_of_accepts accepts
  obtain ⟨closed, suited⟩ := Session.closed_of_runText accepted
  refine ⟨summary, session, accepted, ?_⟩
  -- The clauses of the trace, and with them the tips and all words, are read off its text.
  rw [dangling_tips closed suited, (worded_of_closed closed suited).deductions]
  decide +kernel

end Tableau

end Retrace
