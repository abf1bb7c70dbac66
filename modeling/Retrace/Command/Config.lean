import Retrace.Command.Options
import Retrace.Session

/-!
The configuration of a run: what the options of a command line ask for, checked. Of the report of a
misuse only the headline is kept, for a fault takes one line.
-/

namespace Retrace

namespace Text

/-- What follows a mark that the text starts with, however often the mark is repeated. -/
def withoutLeading (mark : List Char) (nonempty : mark ≠ []) (text : List Char) : List Char :=
  match _begins : after? mark text with
  | some rest => withoutLeading mark nonempty rest
  | none => text
termination_by text.length
decreasing_by
  have whole := length_of_after? _begins
  have positive := List.length_pos_iff.mpr nonempty
  omega

/-- The mark that a report of an error starts with. -/
def errorMark : List Char :=
  ['e', 'r', 'r', 'o', 'r', ':', ' ']

/-- The first line of a report that is not blank, trimmed, without the mark of an error. A report of
blank lines has a fixed headline. -/
def headline (report : String) : String :=
  match (charLines report.toList).map trim |>.find? (! ·.isEmpty) with
  | some line => String.ofList (withoutLeading errorMark (by simp [errorMark]) line)
  | none => "invalid arguments"

end Text

open Retrace.Options (Reading Misuse)

/-- What a run has to do. -/
structure Config where
  /-- The path of the trace. -/
  file : String
  method : Method
  verbose : Bool
  veryVerbose : Bool
  debug : Bool
  /-- The name of the lemma. -/
  label : Option String
  deriving DecidableEq, Repr

namespace Config

/-- Whether a text can name a lemma: it starts with a letter and goes on with letters, numerals,
underscores and primes. -/
def isLabel (text : String) : Bool :=
  match text.toList with
  | [] => false
  | c :: rest =>
    Text.isLetter c && (c :: rest).all fun c => Text.isWordChar c || c == '\x27'

/-- The configuration that the options ask for. A trace has to be given, and the name of the lemma,
if there is one, has to be one. -/
def ofReading (reading : Reading) : Except Fault Config := do
  let file ← match reading.value? .file with
    | some file => pure file
    | none => throw (.configuration "no proof file given (use -f <path>)")
  let label := reading.value? .label
  if let some name := label then
    unless isLabel name do
      throw (.configuration ("invalid lemma name: " ++ name))
  return {
    file
    method := if reading.has .direct then .direct else .tableau
    verbose := reading.has .verbose
    veryVerbose := reading.has .veryVerbose
    debug := reading.has .debug
    label }

/-- The fault of a misuse: the headline of its report. -/
def faultOf (misuse : Misuse) : Fault :=
  .configuration (Text.headline misuse.report)

/-- The configuration that arguments ask for. To ask for the usage is a misuse here. -/
def ofArguments (arguments : List String) : Except Fault Config := do
  ofReading (← (Options.read arguments).mapError faultOf)

/-- Which events are logged, and from which level on. -/
def logDirective (config : Config) : String :=
  if config.debug then "tstp2isar=debug" else "tstp2isar=warn"

/-- What the session of a run does besides writing the script. -/
def preferences (config : Config) : Preferences :=
  { verbose := config.verbose, veryVerbose := config.veryVerbose, label := config.label }

end Config

end Retrace
