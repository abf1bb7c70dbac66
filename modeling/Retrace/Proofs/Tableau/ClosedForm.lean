import Retrace.Proofs.Session.Run

/-!
The drain of a tableau in closed form: which clauses are in the core after any number of rules, and
which premises and facts each rule has, told from the clauses of the trace alone.
-/

namespace Retrace

namespace Clause

/-- Whether a clause cites a root among the given clauses. -/
def restsOnRoot (clauses : List Clause) (clause : Clause) : Bool :=
  clause.parents.any fun parent => clauses.any fun other => other.name == parent && other.isRoot

/-- The name cited in place of a clause when a proof is closed. -/
def tip (clause : Clause) : String :=
  clause.parents.head?.getD clause.name

/-- A clause rests on a root exactly if some root has the name of one of its parents. -/
theorem restsOnRoot_iff {clauses : List Clause} {clause : Clause} :
    clause.restsOnRoot clauses = true ↔
      ∃ root ∈ clauses, root.isRoot = true ∧ root.name ∈ clause.parents := by
  simp only [restsOnRoot, List.any_eq_true, Bool.and_eq_true, beq_iff_eq]
  -- The test goes through the parents, and the statement through the roots.
  constructor
  · rintro ⟨_, cited, root, member, rfl, isRoot⟩
    exact ⟨root, member, isRoot, cited⟩
  · rintro ⟨root, member, isRoot, cited⟩
    exact ⟨root.name, cited, root, member, rfl, isRoot⟩

/-- The first derived clause of a trace has only roots to cite. -/
theorem restsOnRoot_of_first {clauses others : List Clause} {clause : Clause}
    (ordered : Ordered clauses) (first : derivedOf clauses = clause :: others) :
    clause.restsOnRoot clauses = true := by
  -- Nothing before the clause is derived.
  obtain ⟨before, after, rfl, roots, derived, -⟩ := List.filter_eq_cons_iff.mp first
  rw [isDerived, Bool.not_eq_true', isRoot, List.isEmpty_eq_false_iff_exists_mem] at derived
  obtain ⟨parent, cited⟩ := derived
  obtain ⟨root, member, rfl⟩ :=
    List.mem_map.mp (ordered.earlier before clause after rfl parent cited)
  have isRoot : root.isRoot = true := by simpa [isDerived] using roots root member
  exact restsOnRoot_iff.mpr ⟨root, List.mem_append_left _ member, isRoot, cited⟩

end Clause

/-- Among clauses in order, the tip of a clause is found by its name. -/
theorem Graph.tip?_name {graph : Graph} {clause : Clause} (ordered : Clause.Ordered graph.toList)
    (member : clause ∈ graph.toList) : graph.tip? clause.name = some clause.tip := by
  rw [tip?, get?_name ordered member]
  rfl

namespace Tableau

variable {graph : Graph} {waiting : List Clause} {rests : Clause → Bool}

/-- A test that foretells the drain: of the waiting clauses, the latest first, it accepts those that
are not redundant when they are taken. -/
def Foretells (graph : Graph) (rests : Clause → Bool) (waiting : List Clause) : Prop :=
  ∀ above top below, waiting = above ++ top :: below →
    isRedundant graph ((top :: below).map Clause.name) top.name = ! rests top

/-- What is foretold of all waiting clauses is foretold of those below the topmost. -/
theorem Foretells.below {top : Clause} (foretells : Foretells graph rests (top :: waiting)) :
    Foretells graph rests waiting := by
  intro above other below split
  exact foretells (top :: above) other below (by rw [split, List.cons_append])

/-- The topmost clause joins the core exactly if the test accepts it. -/
theorem Foretells.coreAfter_eq {top : Clause} (foretells : Foretells graph rests (top :: waiting))
    (core : List String) :
    coreAfter graph core top.name (waiting.map Clause.name) =
      core ++ ([top].filter rests).map Clause.name := by
  -- The clause is judged together with those below it.
  have judged := foretells [] top waiting rfl
  rw [List.map_cons] at judged
  rw [coreAfter, judged]
  cases accepted : rests top <;> simp [accepted]

/-- What a test accepts of a list is what it accepts of the first item and of the others. -/
theorem filter_first (first : Clause) (others : List Clause) :
    (first :: others).filter rests = [first].filter rests ++ others.filter rests := by
  rw [← List.filter_append, List.singleton_append]

/-- In the end the core holds the clauses that the test accepts. -/
theorem Foretells.finalCore_eq (foretells : Foretells graph rests waiting) (core : List String) :
    finalCore graph core (waiting.map Clause.name) =
      core ++ (waiting.filter rests).map Clause.name := by
  -- The clauses are taken one by one, so the core is general in the induction.
  induction waiting generalizing core with
  | nil => simp [finalCore]
  | cons top below ih =>
    rw [List.map_cons, finalCore, foretells.coreAfter_eq, ih foretells.below,
      filter_first top below, List.map_append, List.append_assoc]

/-- Rules are numbered from one, and those behind the first have the numbers of the others raised. -/
theorem numbers_succ (count : Nat) :
    List.range' 1 (count + 1) = 1 :: (List.range' 1 count).map (· + 1) := by
  rw [List.range'_succ, ← List.range'_succ_left]

/-- After every rule, the size of the core is the number of clauses accepted so far. -/
theorem Foretells.coreSizes_eq (foretells : Foretells graph rests waiting) (core : List String) :
    coreSizes graph core (waiting.map Clause.name) =
      (List.range' 1 waiting.length).map fun number =>
        core.length + ((waiting.take number).filter rests).length := by
  induction waiting generalizing core with
  | nil => simp [coreSizes]
  | cons top below ih =>
    rw [List.map_cons, coreSizes, foretells.coreAfter_eq, ih foretells.below, List.length_cons,
      numbers_succ, List.map_cons, List.map_map]
    -- What is counted behind the first rule includes the topmost clause.
    congr 1
    · simp
    · refine List.map_congr_left fun number _ => ?_
      rw [Function.comp_apply, List.take_succ_cons, filter_first top (below.take number)]
      simp only [List.length_append, List.length_map]
      omega

/-- Every rule has as premises the clauses accepted so far and those that still wait. -/
theorem Foretells.ruleStatements_eq (foretells : Foretells graph rests waiting)
    (theory : List String) (earlier : Nat) (core : List String) :
    ruleStatements graph theory earlier core (waiting.map Clause.name) =
      (List.range' 1 waiting.length).map fun number =>
        .rule (earlier + number)
          (core ++ (((waiting.take number).filter rests) ++
            (waiting.drop number).reverse).map Clause.name)
          (ruleFacts (earlier + number - 1) theory) := by
  induction waiting generalizing earlier core with
  | nil => simp [ruleStatements]
  | cons top below ih =>
    rw [List.map_cons, ruleStatements, foretells.coreAfter_eq, ih foretells.below,
      List.length_cons, numbers_succ, List.map_cons, List.map_map]
    -- The rule for the topmost clause comes first, and all others are numbered behind it.
    congr 1
    · simp
    · refine List.map_congr_left fun number _ => ?_
      rw [Function.comp_apply, List.take_succ_cons, List.drop_succ_cons,
        filter_first top (below.take number)]
      simp [Nat.add_assoc, Nat.add_comm 1 number]

/-- When a clause is taken, its derived parents wait and its roots do not, so it is redundant exactly
if it rests on no root. -/
theorem isRedundant_eq (ordered : Clause.Ordered graph.toList) {before after : List Clause}
    {clause : Clause} (split : graph.toList = before ++ clause :: after)
    {waiting : List String} (waits : ∀ other ∈ before,
      other.name ∈ waiting ↔ other.isDerived = true) :
    isRedundant graph waiting clause.name = ! clause.restsOnRoot graph.toList := by
  have member : clause ∈ graph.toList := by simp [split]
  have inside {other : Clause} (among : other ∈ before) : other ∈ graph.toList := by
    simp [split, among]
  rw [isRedundant, Graph.get?_name ordered member, Bool.eq_iff_iff, Bool.not_eq_true',
    Bool.eq_false_iff, ne_eq, Clause.restsOnRoot_iff, List.all_eq_true]
  simp only [List.contains_iff_mem]
  constructor
  · rintro all ⟨root, among, isRoot, cited⟩
    -- The root would have to wait, and there is no other clause of its name.
    obtain ⟨other, earlier, named⟩ :=
      List.mem_map.mp (ordered.earlier before clause after split root.name cited)
    obtain rfl := ordered.eq_of_name (inside earlier) among named
    have derived := (waits other earlier).mp (all other.name cited)
    simp [Clause.isDerived, isRoot] at derived
  · intro none parent cited
    obtain ⟨other, earlier, rfl⟩ :=
      List.mem_map.mp (ordered.earlier before clause after split parent cited)
    -- A parent that is no root is derived.
    refine (waits other earlier).mpr ?_
    rw [Clause.isDerived, Bool.not_eq_true', Bool.eq_false_iff]
    exact fun isRoot => none ⟨other, inside earlier, isRoot, cited⟩

/-- Resting on a root foretells the drain of all derived clauses. -/
theorem foretells_restsOnRoot (ordered : Clause.Ordered graph.toList) :
    Foretells graph (Clause.restsOnRoot graph.toList)
      (Clause.derivedOf graph.toList).reverse := by
  intro above top below split
  -- The clauses below the topmost are the derived ones before it in the trace.
  rw [List.reverse_eq_iff, List.reverse_append, List.reverse_cons, List.append_assoc,
    List.singleton_append] at split
  obtain ⟨early, late, whole, front, back⟩ := List.filter_eq_append_iff.mp split
  obtain ⟨between, after, rfl, roots, -, -⟩ := List.filter_eq_cons_iff.mp back
  have place : graph.toList = (early ++ between) ++ top :: after := by
    rw [whole, List.append_assoc]
  refine isRedundant_eq ordered place fun other among => ?_
  have inside : other ∈ graph.toList := place ▸ List.mem_append_left _ among
  have waiting (found : Clause) : found ∈ below ↔ found ∈ early ∧ found.isDerived = true := by
    rw [← List.mem_reverse, ← front, List.mem_filter]
  constructor
  · intro named
    obtain ⟨found, listed, same⟩ := List.mem_map.mp named
    rcases List.mem_cons.mp listed with rfl | lower
    · -- The clause itself waits as well, but its name is new.
      have fresh := (place ▸ ordered).fresh
      exact absurd (same ▸ List.mem_map_of_mem among) fresh
    · obtain ⟨earlier, derived⟩ := (waiting found).mp lower
      have located : found ∈ graph.toList := by simp [place, earlier]
      rwa [← ordered.eq_of_name located inside same]
  · intro derived
    -- No derived clause stands between the topmost and those below it.
    have earlier : other ∈ early := by
      rcases List.mem_append.mp among with earlier | middle
      · exact earlier
      · exact absurd derived (roots other middle)
    exact List.mem_map_of_mem (List.mem_cons_of_mem _ ((waiting other).mpr ⟨earlier, derived⟩))

/-- The clauses in the core after the given number of rules: of the derived clauses that were taken,
the latest first, those that rest on a root. -/
def coreClauses (clauses : List Clause) (rules : Nat) : List Clause :=
  ((Clause.derivedOf clauses).reverse.take rules).filter (Clause.restsOnRoot clauses)

/-- The rule of the given number. Its premises are the core and the derived clauses that are not yet
taken, in the order of the trace, and it needs the rule before it, if there is one, and the
theory. -/
def ruleNumbered (clauses : List Clause) (number : Nat) : Statement :=
  let derived := Clause.derivedOf clauses
  .rule number ((coreClauses clauses number ++ derived.take (derived.length - number)).map
      Clause.name)
    ((if 1 < number then [Statement.ruleName (number - 1)] else []) ++ Clause.theoryOf clauses)

/-- The names cited when the proof is closed, one for each clause of the final core. -/
def tips (clauses : List Clause) : List String :=
  (coreClauses clauses (Clause.derivedOf clauses).length).map Clause.tip

/-- What is reported of the drain: a rule for each derived clause, the final core, and the size of
the core after every rule. -/
def drained (clauses : List Clause) : Closing where
  rules := (Clause.derivedOf clauses).length
  core := (coreClauses clauses (Clause.derivedOf clauses).length).map Clause.name
  coreSizes := (List.range' 1 (Clause.derivedOf clauses).length).map fun number =>
    (coreClauses clauses number).length

/-- The waiting clauses of a trace are its derived clauses, the latest first. -/
theorem waitingOf_eq (clauses : List Clause) :
    Clause.waitingOf clauses = (Clause.derivedOf clauses).reverse.map Clause.name := by
  rw [Clause.waitingOf, List.map_reverse]

/-- Once all derived clauses are taken, the core holds all of them that rest on a root. -/
theorem coreClauses_length (clauses : List Clause) :
    coreClauses clauses (Clause.derivedOf clauses).length =
      (Clause.derivedOf clauses).reverse.filter (Clause.restsOnRoot clauses) := by
  rw [coreClauses, List.take_of_length_le (Nat.le_of_eq List.length_reverse)]

/-- The rules of a graph in order are numbered from one, and each is that of its number. -/
theorem ruleStatements_waitingOf (ordered : Clause.Ordered graph.toList) :
    ruleStatements graph (Clause.theoryOf graph.toList) 0 [] (Clause.waitingOf graph.toList) =
      (List.range' 1 (Clause.derivedOf graph.toList).length).map (ruleNumbered graph.toList) := by
  rw [waitingOf_eq, (foretells_restsOnRoot ordered).ruleStatements_eq, List.length_reverse]
  refine List.map_congr_left fun number among => ?_
  have positive := (List.mem_range'_1.mp among).1
  -- What is left of the reversed clauses is, in the order of the trace, their beginning.
  simp only [ruleNumbered, coreClauses, ruleFacts, Nat.zero_add, List.nil_append,
    List.drop_reverse, List.reverse_reverse]
  by_cases later : 1 < number
  · rw [if_pos later, if_neg (by omega), List.singleton_append]
  · rw [if_neg later, if_pos (by omega), List.nil_append]

/-- The final core of a graph in order. -/
theorem finalCore_waitingOf (ordered : Clause.Ordered graph.toList) :
    finalCore graph [] (Clause.waitingOf graph.toList) =
      (coreClauses graph.toList (Clause.derivedOf graph.toList).length).map Clause.name := by
  rw [waitingOf_eq, (foretells_restsOnRoot ordered).finalCore_eq, coreClauses_length,
    List.nil_append]

/-- What a tableau reports of a graph in order is its drain in closed form. -/
theorem report_eq (ordered : Clause.Ordered graph.toList) :
    Method.report .tableau graph = drained graph.toList := by
  have sizes : coreSizes graph [] (Clause.waitingOf graph.toList) =
      (drained graph.toList).coreSizes := by
    -- The size of the core after a rule is the number of clauses that have joined it.
    rw [waitingOf_eq, (foretells_restsOnRoot ordered).coreSizes_eq, List.length_reverse]
    simp [drained, coreClauses]
  rw [Method.report, finalCore_waitingOf ordered, sizes, waitingOf_eq, List.length_map,
    List.length_reverse]
  rfl

/-- The clauses in the core are clauses of the trace. -/
theorem mem_of_mem_coreClauses {clauses : List Clause} {rules : Nat} {clause : Clause}
    (member : clause ∈ coreClauses clauses rules) : clause ∈ clauses := by
  have taken := List.mem_of_mem_take (List.mem_filter.mp member).1
  exact (List.mem_filter.mp (List.mem_reverse.mp taken)).1

/-- The names cited in the end are the tips of the final core. -/
theorem tips_waitingOf (ordered : Clause.Ordered graph.toList) :
    (finalCore graph [] (Clause.waitingOf graph.toList)).map (tipOf graph) = tips graph.toList := by
  rw [finalCore_waitingOf ordered, List.map_map, tips]
  refine List.map_congr_left fun clause member => ?_
  -- Each member of the core is a clause of the graph.
  have inside := mem_of_mem_coreClauses member
  rw [Function.comp_apply, tipOf, Graph.tip?_name ordered inside, Option.getD_some]

/-- Without a derived clause the proof is closed at once. -/
theorem closing_of_underived (none : Clause.derivedOf graph.toList = []) :
    Method.closing .tableau graph = [.conclusion false] := by
  simp [Method.closing, closingStatements, waitingOf_eq, none]

/-- The deductions that close a tableau of derived clauses: their rules in the order of the numbers,
and the conclusion from the tips by the last of them. -/
theorem closing_eq (ordered : Clause.Ordered graph.toList)
    (derives : Clause.derivedOf graph.toList ≠ []) :
    Method.closing .tableau graph =
      (List.range' 1 (Clause.derivedOf graph.toList).length).map (ruleNumbered graph.toList) ++
        [.ruleConclusion (tips graph.toList) (Clause.derivedOf graph.toList).length] := by
  -- A derived clause waits, so the proof is not closed at once.
  have waits : (Clause.waitingOf graph.toList).isEmpty = false := by
    rw [waitingOf_eq, List.isEmpty_map, List.isEmpty_reverse]
    exact List.isEmpty_eq_false_iff.mpr derives
  rw [Method.closing, closingStatements, waits, if_neg Bool.false_ne_true,
    ruleStatements_waitingOf ordered, tips_waitingOf ordered, waitingOf_eq, List.length_map,
    List.length_reverse]

/-- Of the deductions that close a tableau, a test that no conclusion passes selects rules only. -/
theorem filter_closing (ordered : Clause.Ordered graph.toList) {kind : Statement → Bool}
    (other : ∀ statement : Statement, statement.isConclusion = true → kind statement = false) :
    (Method.closing .tableau graph).filter kind =
      ((List.range' 1 (Clause.derivedOf graph.toList).length).map
        (ruleNumbered graph.toList)).filter kind := by
  by_cases none : Clause.derivedOf graph.toList = []
  · -- There is nothing but the conclusion.
    rw [closing_of_underived none, none]
    simp [other (.conclusion false) rfl]
  · rw [closing_eq ordered none, List.filter_append]
    simp [other (.ruleConclusion _ _) rfl]

/-- The final core ends with the first derived clause. -/
theorem getLast?_coreClauses {clauses : List Clause} (ordered : Clause.Ordered clauses) :
    (coreClauses clauses (Clause.derivedOf clauses).length).getLast? =
      (Clause.derivedOf clauses).head? := by
  rw [coreClauses_length]
  cases first : Clause.derivedOf clauses with
  | nil => rfl
  | cons clause others =>
    -- The first derived clause is taken last, and it rests on a root.
    have rests := Clause.restsOnRoot_of_first ordered first
    simp [List.filter_append, rests]

/-- No clause joins the core twice. -/
theorem nodup_coreClauses {clauses : List Clause} (ordered : Clause.Ordered clauses)
    (rules : Nat) : ((coreClauses clauses rules).map Clause.name).Nodup := by
  -- The core is a part of the reversed trace, whose names are distinct.
  have part : (coreClauses clauses rules).Sublist clauses.reverse :=
    List.filter_sublist.trans ((List.take_sublist _ _).trans List.filter_sublist.reverse)
  have distinct : (clauses.reverse.map Clause.name).Nodup := by
    rw [List.map_reverse, List.nodup_reverse]
    exact ordered.distinct
  exact distinct.sublist (part.map Clause.name)

/-- The final core has a member as soon as there is a derived clause. -/
theorem coreClauses_ne_nil {clauses : List Clause} (ordered : Clause.Ordered clauses)
    (derives : Clause.derivedOf clauses ≠ []) :
    coreClauses clauses (Clause.derivedOf clauses).length ≠ [] := by
  -- An empty core would have no last member.
  intro empty
  have last := getLast?_coreClauses ordered
  rw [empty, List.getLast?_nil] at last
  exact derives (List.head?_eq_none_iff.mp last.symm)

end Tableau

end Retrace
