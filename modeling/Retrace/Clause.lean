/-!
Clauses of a proof trace: what each says, what part it plays in the proof, and from which clauses it
was derived.
-/

namespace Retrace

/-- The language of a clause: full first-order formulas or clause normal form. -/
inductive Language where
  | fof
  | cnf
  deriving DecidableEq, Repr

namespace Language

/-- The tag that stands for a language. -/
def tag : Language → String
  | fof => "fof"
  | cnf => "cnf"

/-- The language that a tag stands for. -/
def ofTag? : String → Option Language
  | "fof" => some fof
  | "cnf" => some cnf
  | _ => none

/-- A language is found again from its tag. -/
@[simp] theorem ofTag?_tag (language : Language) : ofTag? language.tag = some language := by
  cases language <;> rfl

end Language

/-- The part that a clause plays in a proof. Three roles give a clause without parents a place in
the script; every other role is kept as it was written and suits derived clauses only. -/
inductive Role where
  | standing
  | definition
  | conjecture
  | derived (text : String)
  deriving DecidableEq, Repr

namespace Role

/-- The role that a text names. -/
def ofText : String → Role
  | "axiom" => standing
  | "definition" => definition
  | "conjecture" => conjecture
  | other => derived other

/-- The text that names a role. -/
def text : Role → String
  | standing => "axiom"
  | definition => "definition"
  | conjecture => "conjecture"
  | derived text => text

/-- Whether a role belongs to clauses that are given and not derived. -/
def isGiven : Role → Bool
  | derived _ => false
  | _ => true

/-- A role keeps the text that it was read from. -/
@[simp] theorem text_ofText (written : String) : (ofText written).text = written := by
  unfold ofText
  split <;> rfl

end Role

/-- A clause of a trace. -/
structure Clause where
  language : Language
  name : String
  role : Role
  /-- The formula in HOL notation. -/
  formula : String
  /-- The formula as the trace has it. -/
  givenFormula : String
  /-- The justification as the trace has it. -/
  givenJustification : String
  /-- The names that the justification cites, in order. -/
  parents : List String
  /-- The number of the line that holds the clause, counted from one. -/
  line : Nat
  deriving DecidableEq, Repr

namespace Clause

/-- A root is a clause without parents: it was supplied and not derived. -/
def isRoot (clause : Clause) : Bool :=
  clause.parents.isEmpty

/-- A clause on one line, for a reader. -/
def summary (clause : Clause) : String :=
  let head := clause.language.tag ++ "(" ++ clause.name ++ ", " ++ clause.role.text ++ ", " ++
    clause.formula ++ ")"
  if clause.isRoot then head else head ++ " <- [" ++ ", ".intercalate clause.parents ++ "]"

end Clause

end Retrace
