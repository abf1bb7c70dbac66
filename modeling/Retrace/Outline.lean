import Retrace.Clause
import Retrace.Script

/-!
The outline of a refutation script: the header of the lemma, the clauses that were supplied, and the
blocks in which falsity is derived. It is the same for every way of reconstructing the steps between.
-/

namespace Retrace

/-- How a script was closed: the numbered rules, the names in the final core, and the size of the
core after every rule. -/
structure Closing where
  rules : Nat := 0
  core : List String := []
  coreSizes : List Nat := []
  deriving DecidableEq, Repr

/-- A script with what has to be known of its outline. -/
structure Outline where
  /-- The name of the lemma. -/
  label : Option String := none
  script : Script := {}
  /-- Whether the header has been begun. -/
  started : Bool := false
  /-- The name of the conjecture. -/
  conjecture : Option String := none
  openBlocks : Nat := 0
  /-- The names of the axioms and definitions, each once, in order. -/
  theory : List String := []
  deriving DecidableEq, Repr

namespace Outline

/-- The columns that the lines of a block stand to the right of the block. -/
def blockIndent : Nat := 2

/-- The outline before its first line. -/
def blank (label : Option String) (room : Option Nat) : Outline :=
  { label, script := Script.empty room }

/-- Writes a statement at the current column. -/
def write (statement : Statement) : Attempt Outline Unit :=
  Attempt.onPart script (fun script outline => { outline with script }) (Script.write statement)

/-- Moves the next lines one block to the right. -/
def indent : Attempt Outline Unit :=
  modify fun outline => { outline with script := outline.script.indent blockIndent }

/-- Moves the next lines one block to the left. -/
def dedent : Attempt Outline Unit :=
  modify fun outline => { outline with script := outline.script.dedent blockIndent }

/-- Writes the header, unless it has been begun. -/
def start : Attempt Outline Unit := do
  let outline ← get
  unless outline.started do
    set { outline with started := true }
    write (.header outline.label)
    indent

/-- Opens a block with the given statement. -/
def openBlock (statement : Statement) : Attempt Outline Unit := do
  write statement
  indent
  modify fun outline => { outline with openBlocks := outline.openBlocks + 1 }

/-- Counts a name among the theory. -/
def addTheory (name : String) (outline : Outline) : Outline :=
  if outline.theory.contains name then outline
  else { outline with theory := outline.theory ++ [name] }

/-- Whether a clause is the first conjecture and comes when falsity is the conclusion already. -/
def isLateConjecture (outline : Outline) (clause : Clause) : Bool :=
  clause.isRoot && clause.role == .conjecture && outline.conjecture.isNone &&
    outline.openBlocks != 0

/-- Writes a clause that was supplied. An axiom or definition is assumed. The conjecture becomes the
conclusion, and its denial is assumed in a block that has falsity to prove; if a block is open
already, only its denial is assumed. -/
def root (clause : Clause) : Attempt Outline Unit := do
  match clause.role with
  | .standing | .definition =>
    if (← get).openBlocks = 0 then write (.premise clause.name clause.formula)
    else write (.supposition clause.name clause.formula)
    modify (addTheory clause.name)
  | .conjecture =>
    if let some first := (← get).conjecture then
      throw (.secondConjecture first clause.name)
    -- The name is taken before anything is written, so a later conjecture is the second one even if
    -- writing this one fails.
    modify fun outline => { outline with conjecture := some clause.name }
    if (← get).openBlocks = 0 then
      write (.goal clause.formula)
      dedent
      openBlock .contradictionBlock
      write (.denial clause.name clause.formula)
      write .absurdStep
      openBlock .plainBlock
    else write (.denial clause.name clause.formula)
  | .derived role => throw (.unsupportedRole clause.name role)

/-- Makes sure that a block is open. Without a conjecture the lemma concludes falsity from its
assumptions. -/
def ensureRefutation : Attempt Outline Unit := do
  start
  if (← get).openBlocks = 0 then
    write .absurdGoal
    dedent
    openBlock .plainBlock

/-- Writes that falsity has been found, at once or from the fact before. -/
def conclude (chained : Bool) : Attempt Outline Unit :=
  write (.conclusion chained)

/-- Closes the given number of blocks, which are all that are open. -/
def closeBlocks : Nat → Attempt Outline Unit
  | 0 => pure ()
  | count + 1 => do
    dedent
    write .blockEnd
    modify fun outline => { outline with openBlocks := count }
    closeBlocks count

/-- Closes every open block. -/
def close : Attempt Outline Unit := do
  closeBlocks (← get).openBlocks

end Outline

end Retrace
