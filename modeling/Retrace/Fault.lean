/-!
What can stop a run, and how it is reported. A run stops at its first fault; the script lines that
were written before it stay written.
-/

namespace Retrace

/-- What can go wrong while a trace is turned into a script. -/
inductive Fault where
  /-- A line is neither blank nor a comment nor a clause. -/
  | malformedLine (line : String)
  /-- A clause has the name of an earlier one. -/
  | duplicateName (name : String)
  /-- A clause without parents has a role that gives it no place in the script. -/
  | unsupportedRole (name role : String)
  /-- The justification of a clause cannot be read, for the reason given. -/
  | badJustification (justification reason : String)
  /-- The options of a run are missing or wrong. -/
  | configuration (problem : String)
  /-- A clause cites a name that no earlier clause has. -/
  | unknownParent (name parent : String)
  /-- A trace states more than one conjecture. -/
  | secondConjecture (first second : String)
  /-- Reading the trace or writing the script failed. -/
  | transfer (problem : String)
  deriving DecidableEq, Repr

namespace Fault

/-- The short name of a fault's kind. -/
def kind : Fault → String
  | malformedLine _ => "MalformedLine"
  | duplicateName _ => "DuplicateNodeName"
  | unsupportedRole _ _ => "UnsupportedRole"
  | badJustification _ _ => "AnnotationParse"
  | configuration _ => "Configuration"
  | unknownParent _ _ => "UnresolvedParent"
  | secondConjecture _ _ => "MultipleConjectures"
  | transfer _ => "Io"

/-- The sentence that reports a fault. -/
def message : Fault → String
  | malformedLine line => "malformed line: `" ++ line ++ "`"
  | duplicateName name => "duplicate node name: " ++ name
  | unsupportedRole name role => "unsupported role `" ++ role ++ "` for root clause " ++ name
  | badJustification justification reason =>
    "annotation parse error in `" ++ justification ++ "`: " ++ reason
  | configuration problem => "configuration error: " ++ problem
  | unknownParent name parent => "clause " ++ name ++ " cites unknown parent " ++ parent
  | secondConjecture first second => "second conjecture " ++ second ++ " (first was " ++ first ++ ")"
  | transfer problem => "I/O error: " ++ problem

end Fault

end Retrace
