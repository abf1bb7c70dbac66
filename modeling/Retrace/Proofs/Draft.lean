import Retrace.Fault
import Retrace.Graph
import Retrace.Script

/-!
Drafts: what a refutation script holds, apart from its comments, told from the clauses of the trace
alone. A draft either gathers the premises of the lemma or refutes them in one block or two.
-/

namespace Retrace

namespace Clause

/-- A conjecture is a root of that role. -/
def isConjecture (clause : Clause) : Bool :=
  clause.isRoot && clause.role == .conjecture

/-- A standing assumption is a root that is an axiom or a definition. -/
def isStanding (clause : Clause) : Bool :=
  clause.isRoot && (clause.role == .standing || clause.role == .definition)

/-- A derived clause is one with parents. -/
def isDerived (clause : Clause) : Bool :=
  !clause.isRoot

end Clause

namespace Statement

/-- Remarks are the statements that the proof does not read. -/
def isRemark : Statement → Bool
  | comment _ => true
  | _ => false

/-- A verbatim statement has no form of its own. -/
def isVerbatim : Statement → Bool
  | verbatim _ => true
  | _ => false

/-- Steps are what derived clauses and their rules become. -/
def isStep : Statement → Bool
  | inference .. => true
  | abbreviation .. => true
  | rule .. => true
  | _ => false

/-- Assumptions are what clauses become that are supplied while a block is open. -/
def isAssumption : Statement → Bool
  | supposition .. => true
  | denial .. => true
  | _ => false

/-- Conclusions say that falsity has been found. -/
def isConclusion : Statement → Bool
  | conclusion _ => true
  | ruleConclusion .. => true
  | _ => false

/-- Deductions are the steps and the conclusions. -/
def isDeduction (statement : Statement) : Bool :=
  statement.isStep || statement.isConclusion

/-- The name that a statement assumes inside a block. -/
def supposed? : Statement → Option String
  | supposition name _ => some name
  | _ => none

/-- The name of the conjecture that a statement denies. -/
def denied? : Statement → Option String
  | denial name _ => some name
  | _ => none

variable {statement : Statement}

/-- Steps are deductions. -/
theorem isDeduction_of_isStep (step : statement.isStep = true) : statement.isDeduction = true := by
  simp [isDeduction, step]

/-- What is no deduction is neither a step nor a conclusion. -/
theorem isDeduction_eq_false_iff :
    statement.isDeduction = false ↔ statement.isStep = false ∧ statement.isConclusion = false :=
  Bool.or_eq_false_iff

/-- A deduction is read by the proof. -/
theorem isRemark_of_isDeduction (deduced : statement.isDeduction = true) :
    statement.isRemark = false := by
  cases statement <;> simp_all [isDeduction, isStep, isConclusion, isRemark]

/-- A deduction assumes no name. -/
theorem supposed?_of_isDeduction (deduced : statement.isDeduction = true) :
    statement.supposed? = none := by
  cases statement <;> simp_all [isDeduction, isStep, isConclusion, supposed?]

/-- A deduction denies no conjecture. -/
theorem denied?_of_isDeduction (deduced : statement.isDeduction = true) :
    statement.denied? = none := by
  cases statement <;> simp_all [isDeduction, isStep, isConclusion, denied?]

end Statement

/-- What a script holds so far, apart from its comments. -/
inductive Draft where
  /-- The lemma has its header and premises, and no conclusion yet. -/
  | gathering (premises : List Clause)
  /-- The lemma is stated, with the conjecture as its conclusion or else with falsity, and the
  innermost block holds further statements. -/
  | refuting (premises : List Clause) (conjecture : Option Clause) (body : List Statement)
  deriving DecidableEq, Repr

namespace Draft

/-- How many blocks are open once the lemma is stated. -/
def blocks : Option Clause → Nat
  -- Falsity is proved in one block.
  | none => 1
  -- A conjecture takes a block for its denial and another one for falsity.
  | some _ => 2

/-- The header of the lemma and its premises. -/
def preamble (label : Option String) (premises : List Clause) : List Line :=
  ⟨0, .header label⟩ :: premises.map fun clause => ⟨2, .premise clause.name clause.formula⟩

/-- The conclusion of the lemma and the beginnings of its blocks. -/
def opening : Option Clause → List Line
  | none => [⟨2, .absurdGoal⟩, ⟨0, .plainBlock⟩]
  | some clause =>
    [⟨2, .goal clause.formula⟩, ⟨0, .contradictionBlock⟩, ⟨2, .denial clause.name clause.formula⟩,
      ⟨2, .absurdStep⟩, ⟨2, .plainBlock⟩]

/-- The ends of the given number of blocks, each two columns left of the one before. -/
def blockEnds : Nat → List Line
  | 0 => []
  | count + 1 => ⟨2 * count, .blockEnd⟩ :: blockEnds count

/-- The lines of a draft. -/
def lines (label : Option String) : Draft → List Line
  | gathering premises => preamble label premises
  | refuting premises conjecture body =>
    preamble label premises ++ opening conjecture ++
      body.map fun statement => ⟨2 * blocks conjecture, statement⟩

/-- The number of open blocks. -/
def openBlocks : Draft → Nat
  | gathering _ => 0
  | refuting _ conjecture _ => blocks conjecture

/-- The column at which the next line starts. -/
def column : Draft → Nat
  | gathering _ => 2
  | refuting _ conjecture _ => 2 * blocks conjecture

/-- The name of the conjecture, stated by the lemma or denied later. -/
def conjecture? : Draft → Option String
  | gathering _ => none
  | refuting _ (some clause) _ => some clause.name
  | refuting _ none body => body.findSome? Statement.denied?

/-- The names of the standing assumptions, in order. -/
def theory : Draft → List String
  | gathering premises => premises.map Clause.name
  | refuting premises _ body => premises.map Clause.name ++ body.filterMap Statement.supposed?

/-- The draft with one more premise, or one more assumption in the innermost block. -/
def assume (clause : Clause) : Draft → Draft
  | gathering premises => gathering (premises ++ [clause])
  | refuting premises conjecture body =>
    refuting premises conjecture (body ++ [.supposition clause.name clause.formula])

/-- The draft with the conjecture: as the conclusion if there is none yet, else denied only. -/
def conclude (clause : Clause) : Draft → Draft
  | gathering premises => refuting premises (some clause) []
  | refuting premises conjecture body =>
    refuting premises conjecture (body ++ [.denial clause.name clause.formula])

/-- The draft with a block open. -/
def refute : Draft → Draft
  | gathering premises => refuting premises none []
  | refuting premises conjecture body => refuting premises conjecture body

/-- The draft with further deductions in the innermost block. -/
def deduce (statements : List Statement) : Draft → Draft
  | gathering premises => refuting premises none statements
  | refuting premises conjecture body => refuting premises conjecture (body ++ statements)

/-- Why a root has no place in a draft, if it has none. -/
def refusal? (clause : Clause) (draft : Draft) : Option Fault :=
  match clause.role with
  | .standing | .definition => none
  | .conjecture => draft.conjecture?.map fun first => .secondConjecture first clause.name
  | .derived role => some (.unsupportedRole clause.name role)

/-- The draft with a root, unless the root is refused. -/
def supply (clause : Clause) (draft : Draft) : Draft :=
  match clause.role with
  | .standing | .definition => draft.assume clause
  | .conjecture => if draft.conjecture?.isSome then draft else draft.conclude clause
  | .derived _ => draft

/-- The draft with one more clause. What a derived clause becomes is up to the method. -/
def receive (step : Clause → Statement) (clause : Clause) (draft : Draft) : Draft :=
  if clause.isRoot then draft.supply clause else draft.deduce [step clause]

/-- The draft of a script that may not have been started: starting gives it a header only. -/
def begun (draft : Option Draft) : Draft :=
  draft.getD (.gathering [])

@[simp] theorem begun_none : begun none = .gathering [] := rfl

@[simp] theorem begun_some (draft : Draft) : begun (some draft) = draft := rfl

/-- The draft that the clauses of a trace make up. Before the first clause there is none. -/
def ofClauses (step : Clause → Statement) (clauses : List Clause) : Option Draft :=
  clauses.foldl (fun draft clause => some ((begun draft).receive step clause)) none

/-- No clauses make up no draft. -/
@[simp] theorem ofClauses_nil (step : Clause → Statement) : ofClauses step [] = none :=
  rfl

/-- A further clause is received by the draft of the clauses before it. -/
@[simp] theorem ofClauses_snoc (step : Clause → Statement) (clauses : List Clause)
    (clause : Clause) :
    ofClauses step (clauses ++ [clause]) =
      some ((begun (ofClauses step clauses)).receive step clause) := by
  -- The clauses are taken from left to right.
  simp [ofClauses]

/-- The lines of a script that is closed: those of its draft and the ends of the open blocks. -/
def closedLines (label : Option String) (draft : Draft) : List Line :=
  draft.lines label ++ blockEnds draft.openBlocks

end Draft

end Retrace
