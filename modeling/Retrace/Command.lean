import Retrace.Command.Config
import Retrace.Command.Diagnostic
import Retrace.Command.Record

/-!
The command: from arguments and the contents of a file to what is printed and the exit status.
-/

namespace Retrace

/-- What a command leaves behind. -/
structure Outcome where
  exit : Nat
  /-- What is printed on the standard output. -/
  output : String
  /-- What is printed on the standard error output. -/
  report : String
  deriving DecidableEq, Repr

namespace Note

/-- The text of a note, with the line feed that ends it. -/
def text : Note → String
  | .clause shown => shown.record ++ "\n"
  | .givenRole name role =>
    "WARN tstp2isar::session: input role on a derived clause name=" ++ name ++
      " role=" ++ role ++ "\n"
  | .lateConjecture name =>
    "WARN tstp2isar::reconstruct: conjecture after first derived clause name=" ++ name ++ "\n"

end Note

namespace Summary

/-- The figures of a pass on one line. -/
def text (summary : Summary) : String :=
  summary.method.name ++ " " ++ toString summary.clauses ++ " clauses (" ++
    toString summary.roots ++ " input, " ++ toString summary.derived ++ " derived), " ++
    toString summary.rules ++ " rules, core of " ++ toString summary.core.length ++ ", " ++
    toString summary.scriptLines ++ " script lines"

end Summary

namespace Command

/-- The report of a fault. -/
def complain (fault : Fault) (contexts : List String) : String :=
  "error: " ++ (Cause.fault fault).diagnostic contexts ++ "\n"

/-- What the command leaves behind once its configuration is known. What was written before a fault
is printed all the same. -/
def execute (config : Config) (contents : Contents) : Outcome :=
  let notes (session : Session) := String.join (session.notes.toList.map Note.text)
  match runContents contents (Session.new config.method config.preferences none) with
  | .ok summary session =>
    { exit := 0
      output := session.script.text
      report := notes session ++ if config.veryVerbose then summary.text ++ "\n" else "" }
  | .error fault session =>
    { exit := 1
      output := session.script.text
      report := notes session ++ complain fault ["translating " ++ config.file] }

/-- The configuration that arguments ask for, or what the command leaves behind without one: the
usage, or the report of a fault. -/
def configure (arguments : List String) : Except Outcome Config :=
  match Options.read arguments with
  | .error .helpWanted => .error { exit := 0, output := Options.usage, report := "" }
  | .error misuse => .error { exit := 1, output := "", report := complain (Config.faultOf misuse) [] }
  | .ok reading =>
    (Config.ofReading reading).mapError fun fault =>
      { exit := 1, output := "", report := complain fault [] }

/-- What the command leaves behind, when files are read as given. -/
def run (arguments : List String) (read : String → Contents) : Outcome :=
  match configure arguments with
  | .error outcome => outcome
  | .ok config => execute config (read config.file)

end Command

end Retrace
