import Retrace.Fault

/-!
Diagnostics: what stopped a command, reported on one line.
-/

namespace Retrace

/-- What a diagnostic reports. -/
inductive Cause where
  | fault (fault : Fault)
  /-- A complaint that is none of the faults. -/
  | other (complaint : String)
  deriving DecidableEq, Repr

namespace Cause

/-- The short name of the kind of a cause. -/
def kind : Cause → String
  | .fault cause => cause.kind
  | .other _ => "Error"

/-- The messages of a cause, from the outermost. A failed transfer has the complaint of the system
as a cause of its own. -/
def messages : Cause → List String
  | .fault (.transfer problem) => [Fault.message (.transfer problem), problem]
  | .fault cause => [cause.message]
  | .other complaint => [complaint]

/-- The diagnostic of a cause: its kind between brackets, then the contexts from the outermost and
the messages, all on one line. -/
def diagnostic (cause : Cause) (contexts : List String) : String :=
  let report := ": ".intercalate (contexts ++ cause.messages)
  "[" ++ cause.kind ++ "] " ++ report.map fun c => if c = '\n' then ' ' else c

end Cause

end Retrace
