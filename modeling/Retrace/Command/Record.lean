import Retrace.Clause

/-!
The JSON record of a clause, laid out over several lines with two spaces for each level.
-/

namespace Retrace.Clause

/-- The two hexadecimal digits of a number below 256. -/
def hexPair (code : Nat) : List Char :=
  [Nat.digitChar (code / 16), Nat.digitChar (code % 16)]

/-- A character as it stands in a JSON string: only quotes, backslashes and control characters below
the space are escaped. -/
def jsonChar (c : Char) : List Char :=
  match c with
  | '"' => ['\\', '"']
  | '\\' => ['\\', '\\']
  | '\x08' => ['\\', 'b']
  | '\x0c' => ['\\', 'f']
  | '\n' => ['\\', 'n']
  | '\r' => ['\\', 'r']
  | '\t' => ['\\', 't']
  | c => if c.toNat < 0x20 then ['\\', 'u', '0', '0'] ++ hexPair c.toNat else [c]

/-- A text as a JSON string. -/
def jsonString (text : String) : String :=
  String.ofList ('"' :: text.toList.flatMap jsonChar ++ ['"'])

/-- Several lines, each with two more spaces in front, and commas between them. -/
def jsonMembers (column : Nat) (members : List String) : String :=
  ",\n".intercalate (members.map fun member => "".pushn ' ' column ++ member)

/-- A role as a JSON value: a text, or an object that holds the text of a derived role. -/
def jsonRole : Role → String
  | .standing => jsonString "Axiom"
  | .definition => jsonString "Definition"
  | .conjecture => jsonString "Conjecture"
  | .derived text => "\x7b\n" ++ jsonMembers 4 ["\"Derived\": " ++ jsonString text] ++ "\n  \x7d"

/-- A list of texts as a JSON array. -/
def jsonTexts (texts : List String) : String :=
  if texts.isEmpty then "[]" else "[\n" ++ jsonMembers 4 (texts.map jsonString) ++ "\n  ]"

/-- The JSON record of a clause. -/
def record (clause : Clause) : String :=
  "\x7b\n" ++ jsonMembers 2 [
    "\"language\": " ++ jsonString clause.language.tag,
    "\"name\": " ++ jsonString clause.name,
    "\"role\": " ++ jsonRole clause.role,
    "\"formula\": " ++ jsonString clause.formula,
    "\"raw_formula\": " ++ jsonString clause.givenFormula,
    "\"raw_annotation\": " ++ jsonString clause.givenJustification,
    "\"parents\": " ++ jsonTexts clause.parents,
    "\"line\": " ++ toString clause.line] ++ "\n\x7d"

end Retrace.Clause
