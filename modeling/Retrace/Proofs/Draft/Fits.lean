import Retrace.Proofs.Clause.Reader

/-!
Drafts of clauses whose texts fit on a line are written with one line for each statement: no line of
the closed script holds a line feed.
-/

namespace Retrace

/-- A statement that the program words itself, from texts that fit on a line. -/
def Statement.Fits (statement : Statement) : Prop :=
  statement.isVerbatim = false ∧ ∀ text ∈ statement.texts, FitsLine text

namespace Draft

/-- A draft fits if its clauses and the statements of its body do. -/
def Fits : Draft → Prop
  | gathering premises => ∀ clause ∈ premises, clause.FitsLine
  | refuting premises conjecture body =>
    (∀ clause ∈ premises, clause.FitsLine) ∧ (∀ clause ∈ conjecture, clause.FitsLine) ∧
      ∀ statement ∈ body, statement.Fits

variable {draft : Draft} {clause : Clause}

/-- A clause that fits is assumed by a statement that fits. -/
theorem fits_assumption (fits : clause.FitsLine) :
    Statement.Fits (.supposition clause.name clause.formula) ∧
      Statement.Fits (.denial clause.name clause.formula) := by
  have both : ∀ text ∈ [clause.name, clause.formula], FitsLine text := by
    simpa using ⟨fits.name, fits.formula⟩
  exact ⟨⟨rfl, both⟩, ⟨rfl, both⟩⟩

/-- What fits stays so when a root that fits is supplied. -/
theorem Fits.supply (fits : draft.Fits) (clean : clause.FitsLine) : (draft.supply clause).Fits := by
  obtain ⟨supposed, denied⟩ := fits_assumption clean
  unfold Draft.supply
  cases clause.role with
  | standing | definition =>
    cases draft with
    | gathering premises =>
      -- A premise is added behind those that fit already.
      intro other member
      rcases List.mem_append.mp member with old | new
      · exact fits other old
      · exact List.mem_singleton.mp new ▸ clean
    | refuting premises conjecture body =>
      refine ⟨fits.1, fits.2.1, fun statement member => ?_⟩
      rcases List.mem_append.mp member with old | new
      · exact fits.2.2 statement old
      · exact List.mem_singleton.mp new ▸ supposed
  | conjecture =>
    -- A conjecture that is refused leaves the draft alone.
    by_cases stated : draft.conjecture?.isSome = true
    · simpa [stated] using fits
    · simp only [stated, Bool.false_eq_true, if_false]
      cases draft with
      | gathering premises => exact ⟨fits, by simpa using clean, by simp⟩
      | refuting premises conjecture body =>
        refine ⟨fits.1, fits.2.1, fun statement member => ?_⟩
        rcases List.mem_append.mp member with old | new
        · exact fits.2.2 statement old
        · exact List.mem_singleton.mp new ▸ denied
  | derived text => exact fits

/-- What fits stays so when deductions that fit are added. -/
theorem Fits.deduce (fits : draft.Fits) {statements : List Statement}
    (clean : ∀ statement ∈ statements, statement.Fits) : (draft.deduce statements).Fits := by
  -- The deductions stand at the end of the body.
  cases draft with
  | gathering premises => exact ⟨fits, by simp, clean⟩
  | refuting premises conjecture body =>
    refine ⟨fits.1, fits.2.1, fun statement member => ?_⟩
    exact (List.mem_append.mp member).elim (fits.2.2 statement) (clean statement)

/-- What a derived clause that fits becomes fits as well. -/
theorem fits_statement (method : Method) (clean : clause.FitsLine) :
    (method.statement clause).Fits := by
  -- Neither form is a verbatim text.
  have own : (method.statement clause).isVerbatim = false := by cases method <;> rfl
  -- Only direct chaining names the parents.
  refine ⟨own, fun text member => ?_⟩
  cases method with
  | direct =>
    rcases List.mem_append.mp member with parent | new
    · exact clean.parents text parent
    · rcases List.mem_pair.mp new with rfl | rfl
      · exact clean.name
      · exact clean.formula
  | tableau =>
    rcases List.mem_pair.mp member with rfl | rfl
    · exact clean.name
    · exact clean.formula

/-- The draft of clauses that fit fits. -/
theorem fits_ofClauses (method : Method) {clauses : List Clause}
    (clean : ∀ clause ∈ clauses, clause.FitsLine) :
    (begun (ofClauses method.statement clauses)).Fits := by
  induction clauses using List.reverseRecOn with
  | nil => exact fun clause member => nomatch member
  | append_singleton clauses clause ih =>
    -- The last clause is a root to be supplied, or derived and becomes a step.
    have before := ih fun other member => clean other (List.mem_append_left _ member)
    have last := clean clause (by simp)
    rw [ofClauses_snoc, begun_some, receive]
    split
    · exact before.supply last
    · exact before.deduce (by simpa using fits_statement method last)

/-- Every line of a draft that fits is written from texts that fit. -/
theorem Fits.closedLines (fits : draft.Fits) {label : Option String}
    (labelled : ∀ name ∈ label, FitsLine name) {line : Line}
    (member : line ∈ draft.closedLines label) : line.statement.Fits := by
  have header : Statement.Fits (.header label) := ⟨rfl, by simpa [Statement.texts] using labelled⟩
  have premise {clause : Clause} (clean : clause.FitsLine) :
      Statement.Fits (.premise clause.name clause.formula) :=
    ⟨rfl, by simpa [Statement.texts] using ⟨clean.name, clean.formula⟩⟩
  have preambled (premises : List Clause) (clean : ∀ clause ∈ premises, clause.FitsLine)
      (among : line ∈ preamble label premises) : line.statement.Fits := by
    rcases List.mem_cons.mp among with rfl | later
    · exact header
    · obtain ⟨clause, held, rfl⟩ := List.mem_map.mp later
      exact premise (clean clause held)
  -- Most statements around the body hold no text at all.
  have fixed (statement : Statement) (plain : statement.texts = [])
      (own : statement.isVerbatim = false) : statement.Fits := ⟨own, by simp [plain]⟩
  rcases List.mem_append.mp member with inside | ends
  · cases draft with
    | gathering premises => exact preambled premises fits inside
    | refuting premises conjecture body =>
      rcases List.mem_append.mp inside with front | stated
      · rcases List.mem_append.mp front with before | opened
        · exact preambled premises fits.1 before
        · -- The conclusion and its denial are the only statements here that hold a text.
          cases conjecture with
          | none =>
            rcases List.mem_pair.mp opened with rfl | rfl <;> exact fixed _ rfl rfl
          | some clause =>
            have clean := fits.2.1 clause rfl
            simp only [opening, List.mem_cons, List.not_mem_nil, or_false] at opened
            rcases opened with rfl | rfl | rfl | rfl | rfl
            · exact ⟨rfl, by simpa [Statement.texts] using clean.formula⟩
            · exact fixed _ rfl rfl
            · exact (fits_assumption clean).2
            · exact fixed _ rfl rfl
            · exact fixed _ rfl rfl
      · obtain ⟨statement, held, rfl⟩ := List.mem_map.mp stated
        exact fits.2.2 statement held
  · -- The ends of blocks hold no text either.
    have same := List.mem_map_of_mem (f := Line.statement) ends
    rw [statements_blockEnds] at same
    rw [List.eq_of_mem_replicate same]
    exact fixed _ rfl rfl

end Draft

namespace Tableau

variable {graph : Graph} {waiting theory : List String}

/-- The core holds what it held before and what was taken. -/
theorem mem_coreAfter {core below : List String} {top name : String}
    (member : name ∈ coreAfter graph core top below) : name ∈ core ∨ name = top := by
  -- A redundant clause is left out.
  unfold coreAfter at member
  split at member
  · exact .inl member
  · simpa using member

/-- The final core holds clauses that waited, beside what it held before. -/
theorem mem_finalCore {core : List String} {name : String}
    (member : name ∈ finalCore graph core waiting) : name ∈ core ∨ name ∈ waiting := by
  induction waiting generalizing core with
  | nil => exact .inl member
  | cons top below ih =>
    -- The clauses taken later may join the core as well.
    rcases ih member with kept | later
    · rcases mem_coreAfter kept with old | rfl
      · exact .inl old
      · exact .inr List.mem_cons_self
    · exact .inr (List.mem_cons_of_mem _ later)

/-- Rules for names that fit fit as well. -/
theorem fits_ruleStatements (theories : ∀ name ∈ theory, FitsLine name) :
    ∀ {earlier : Nat} {core : List String} {statement : Statement},
      (∀ name ∈ core, FitsLine name) → (∀ name ∈ waiting, FitsLine name) →
      statement ∈ ruleStatements graph theory earlier core waiting → statement.Fits := by
  induction waiting with
  | nil => intro earlier core statement _ _ member; cases member
  | cons top below ih =>
    intro earlier core statement cores waits member
    -- The core takes in no name from elsewhere.
    have grown : ∀ name ∈ coreAfter graph core top below, FitsLine name := by
      intro name among
      rcases mem_coreAfter among with old | rfl
      · exact cores name old
      · exact waits name List.mem_cons_self
    have lower : ∀ name ∈ below, FitsLine name :=
      fun name among => waits name (List.mem_cons_of_mem _ among)
    rcases List.mem_cons.mp member with rfl | later
    · -- A rule names the core, what still waits, the rule before it and the theory.
      refine ⟨rfl, fun text among => ?_⟩
      rcases List.mem_append.mp among with premise | fact
      · rcases List.mem_append.mp premise with kept | waiting
        · exact grown text kept
        · exact lower text (List.mem_reverse.mp waiting)
      · unfold ruleFacts at fact
        split at fact
        · exact theories text fact
        · rcases List.mem_cons.mp fact with rfl | theoretical
          · exact Statement.fitsLine_ruleName earlier
          · exact theories text theoretical
    · exact ih grown lower later

/-- The tip of a clause is its name or that of a parent, and so fits if the clauses of the graph do. -/
theorem fitsLine_tipOf (clean : ∀ clause ∈ graph.toList, clause.FitsLine) {name : String}
    (named : FitsLine name) : FitsLine (tipOf graph name) := by
  unfold tipOf Graph.tip?
  -- A clause that is not found is cited by its own name.
  cases found : graph.get? name with
  | none => exact named
  | some clause =>
    have fits := clean clause (Graph.mem_of_get? found).1
    cases parents : clause.parents with
    | nil => simpa [parents] using fits.name
    | cons parent others =>
      simpa [parents] using fits.parents parent (by simp [parents])

end Tableau

/-- The names of clauses that fit fit on a line. -/
theorem Clause.fitsLine_of_mem_names {clauses : List Clause}
    (clean : ∀ clause ∈ clauses, clause.FitsLine) {test : Clause → Bool} {name : String}
    (member : name ∈ (clauses.filter test).map Clause.name) : Retrace.FitsLine name := by
  obtain ⟨clause, kept, rfl⟩ := List.mem_map.mp member
  exact (clean clause (List.mem_filter.mp kept).1).name

/-- The deductions that close a script of clauses that fit fit as well. -/
theorem Method.fits_closing (method : Method) {graph : Graph}
    (clean : ∀ clause ∈ graph.toList, clause.FitsLine) :
    ∀ statement ∈ method.closing graph, statement.Fits := by
  have concludes (chained : Bool) : Statement.Fits (.conclusion chained) :=
    ⟨rfl, by simp [Statement.texts]⟩
  -- The clauses that wait are clauses of the graph.
  have waits : ∀ name ∈ Clause.waitingOf graph.toList, FitsLine name :=
    fun name member => Clause.fitsLine_of_mem_names clean (List.mem_reverse.mp member)
  intro statement member
  cases method with
  | direct => exact List.mem_singleton.mp member ▸ concludes _
  | tableau =>
    simp only [closing, Tableau.closingStatements] at member
    split at member
    · exact List.mem_singleton.mp member ▸ concludes _
    · rcases List.mem_append.mp member with rule | last
      · exact Tableau.fits_ruleStatements (fun name => Clause.fitsLine_of_mem_names clean)
          (by simp) waits rule
      · -- The last deduction cites the tips of clauses that have waited.
        rw [List.mem_singleton.mp last]
        refine ⟨rfl, fun text tip => ?_⟩
        obtain ⟨name, core, rfl⟩ := List.mem_map.mp tip
        have waited := (Tableau.mem_finalCore core).resolve_left (by simp)
        exact Tableau.fitsLine_tipOf clean (waits name waited)

/-- Every line of a closed script of clauses that fit is written from texts that fit. -/
theorem Method.fits_closedLines (method : Method) {graph : Graph} {label : Option String}
    (clean : ∀ clause ∈ graph.toList, clause.FitsLine) (labelled : ∀ name ∈ label, FitsLine name)
    {line : Line} (member : line ∈ (method.finalDraft graph).closedLines label) :
    line.statement.Fits :=
  ((Draft.fits_ofClauses method clean).deduce (method.fits_closing clean)).closedLines labelled
    member

end Retrace
