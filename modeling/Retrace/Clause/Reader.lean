import Retrace.Clause
import Retrace.Fault
import Retrace.Formula.Nesting
import Retrace.Text.Blank
import Retrace.Text.Letter

/-!
Lines of a trace: `language(name, role, formula, justification).` A line that is blank, or starts
with `%` or `#`, holds no clause.
-/

namespace Retrace.Clause

open Retrace.Text (skipLayout trim trimEnd isWordChar)
open Retrace.Formula (splitAtComma)

/-- The fields of a clause line, the role not yet read and the formula not yet carried over. -/
structure Entry where
  language : Language
  name : String
  role : String
  formula : String
  justification : String
  deriving DecidableEq, Repr

/-- What follows a character that the text has to start with. -/
def expect? (wanted : Char) : List Char → Option (List Char)
  | [] => none
  | c :: rest => if c = wanted then some rest else none

/-- The longest beginning of a text that the test accepts and what follows it, if the beginning is
not empty. -/
def run? (test : Char → Bool) (text : List Char) : Option (List Char × List Char) :=
  match text.takeWhile test with
  | [] => none
  | c :: taken => some (c :: taken, text.dropWhile test)

/-- The language tag that a text starts with, and what follows it. -/
def readLanguage? : List Char → Option (Language × List Char)
  | a :: b :: c :: rest => (Language.ofTag? (String.ofList [a, b, c])).map fun found => (found, rest)
  | _ => none

/-- The clause name that a text starts with, and what follows it. A name is a run of word characters
or stands between single quotes, which do not belong to it. -/
def readName? : List Char → Option (List Char × List Char)
  | '\x27' :: text => do
    let (name, behind) ← run? (· != '\x27') text
    let rest ← expect? '\x27' behind
    return (name, rest)
  | text => run? isWordChar text

/-- What a reader finds between layout that is skipped. -/
def field? (read? : List Char → Option (List Char × List Char)) (text : List Char) :
    Option (List Char × List Char) := do
  let (found, rest) ← read? (skipLayout text)
  return (found, skipLayout rest)

/-- The text without the character that it has to end with. -/
def dropEnd? (wanted : Char) (text : List Char) : Option (List Char) :=
  if text.getLast? = some wanted then some text.dropLast else none

/-- The formula and the justification at the end of a clause line. They are parted at the first
comma outside brackets and quotes, and neither may be blank. -/
def readBody? (text : List Char) : Option (List Char × List Char) := do
  let unended ← dropEnd? '.' (trimEnd text)
  let inner ← dropEnd? ')' (trimEnd unended)
  let (before, after) ← splitAtComma {} inner
  let formula := trim before
  let justification := trim after
  if formula.isEmpty || justification.isEmpty then none else some (formula, justification)

/-- The fields of a clause line without blanks at its ends. -/
def readEntry? (text : List Char) : Option Entry := do
  let (language, text) ← readLanguage? text
  let (name, text) ← field? readName? (← expect? '(' text)
  let (role, text) ← field? (run? isWordChar) (← expect? ',' text)
  let (formula, justification) ← readBody? (← expect? ',' text)
  return {
    language
    name := String.ofList name
    role := String.ofList role
    formula := String.ofList formula
    justification := String.ofList justification }

/-- The language that a text alone names. -/
def languageNamed (text : String) : Except Fault Language :=
  match Language.ofTag? text with
  | some language => .ok language
  | none => .error (.malformedLine text)

/-- Whether a trimmed line holds no clause. -/
def isSilent : List Char → Bool
  | [] => true
  | c :: _ => c == '%' || c == '#'

/-- The clause on a line, if the line holds one. -/
def readLine (line : String) : Except Fault (Option Entry) :=
  let text := trim line.toList
  if isSilent text then .ok none
  else
    match readEntry? text with
    | some entry => .ok (some entry)
    | none => .error (.malformedLine line)

end Retrace.Clause
