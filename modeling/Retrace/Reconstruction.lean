import Retrace.Chaining
import Retrace.Tableau

/-!
The two ways of reconstructing a proof, as one.
-/

namespace Retrace

/-- A way of reconstructing a proof. -/
inductive Method where
  | direct
  | tableau
  deriving DecidableEq, Repr

namespace Method

/-- The name of a method. -/
def name : Method → String
  | direct => "direct"
  | tableau => "tableau"

/-- The method that a text names, in capital or small letters. -/
def ofName (text : String) : Except Fault Method :=
  let small := text.toLower
  if small = "direct" || small = "chaining" then .ok direct
  else if small = "tableau" || small = "core" then .ok tableau
  else .error (.configuration ("unknown method: " ++ text))

end Method

/-- A reconstruction under way. -/
inductive Reconstruction where
  | chaining (state : Chaining)
  | tableau (state : Tableau)
  deriving DecidableEq, Repr

namespace Reconstruction

/-- A reconstruction before its first clause. -/
def new (method : Method) (label : Option String) (room : Option Nat) : Reconstruction :=
  match method with
  | .direct => .chaining { outline := .blank label room }
  | .tableau => .tableau { outline := .blank label room }

/-- The method of a reconstruction. -/
def method : Reconstruction → Method
  | chaining _ => .direct
  | tableau _ => .tableau

/-- The outline of a reconstruction. -/
def outline : Reconstruction → Outline
  | chaining state => state.outline
  | tableau state => state.outline

/-- The script of a reconstruction. -/
def script (reconstruction : Reconstruction) : Script :=
  reconstruction.outline.script

/-- Makes an attempt on the outline. -/
def onOutline {α : Type} (attempt : Attempt Outline α) : Attempt Reconstruction α
  | chaining state => Attempt.embed chaining (Chaining.onOutline attempt) state
  | tableau state => Attempt.embed tableau (Tableau.onOutline attempt) state

/-- Takes the next clause of the trace. -/
def step (clause : Clause) : Attempt Reconstruction Unit
  | chaining state => Attempt.embed chaining (Chaining.step clause) state
  | tableau state => Attempt.embed tableau (Tableau.step clause) state

/-- Closes the script. -/
def finish (graph : Graph) : Attempt Reconstruction Closing
  | chaining state => Attempt.embed chaining Chaining.finish state
  | tableau state => Attempt.embed tableau (Tableau.finish graph) state

end Reconstruction

end Retrace
