import Retrace.Attempt
import Retrace.Script.Statement

/-!
Proof scripts under construction. A script keeps its lines and the column at which the next one
starts. It may have limited room: then it takes of every line what still fits, and a line that does
not fit is a fault.
-/

namespace Retrace

/-- A line of a script: a statement at a column. -/
structure Line where
  column : Nat
  statement : Statement
  deriving DecidableEq, Repr

namespace Line

/-- The written form of a line, with the line feed that ends it. -/
def text (line : Line) : String :=
  "".pushn ' ' line.column ++ line.statement.text ++ "\n"

/-- The bytes of a line. -/
def bytes (line : Line) : List UInt8 :=
  line.text.toUTF8.data.toList

end Line

/-- A script under construction. -/
structure Script where
  /-- The column at which the next line starts. -/
  column : Nat := 0
  /-- The lines that were written in full. -/
  lines : Array Line := #[]
  /-- What was taken of lines that did not fit. -/
  torn : List UInt8 := []
  /-- How many more bytes there is room for, if the room is limited. -/
  room : Option Nat := none
  deriving DecidableEq, Repr

namespace Script

/-- The script without lines, with room for the given number of bytes or for any. -/
def empty (room : Option Nat) : Script :=
  { room }

/-- Moves the next lines to the right. -/
def indent (columns : Nat) (script : Script) : Script :=
  { script with column := script.column + columns }

/-- Moves the next lines to the left, but not beyond the margin. -/
def dedent (columns : Nat) (script : Script) : Script :=
  { script with column := script.column - columns }

/-- The fault of a script that has no room for a line. -/
def full : Fault :=
  .transfer "failed to write whole buffer"

/-- Writes a statement at the current column. -/
def write (statement : Statement) : Attempt Script Unit := fun script =>
  let line : Line := ⟨script.column, statement⟩
  match script.room with
  | none => .ok () { script with lines := script.lines.push line }
  | some room =>
    if line.bytes.length ≤ room then
      .ok () { script with lines := script.lines.push line, room := some (room - line.bytes.length) }
    else
      .error full { script with torn := script.torn ++ line.bytes.take room, room := some 0 }

/-- A script of unlimited room takes every line. -/
theorem write_of_unlimited {script : Script} (unlimited : script.room = none)
    (statement : Statement) :
    write statement script =
      .ok () { script with lines := script.lines.push ⟨script.column, statement⟩ } := by
  simp [write, unlimited]

/-- The bytes written since an earlier state of a script. -/
def bytesSince (earlier script : Script) : List UInt8 :=
  (script.lines.toList.drop earlier.lines.size).flatMap Line.bytes ++
    script.torn.drop earlier.torn.length

/-- All bytes written. -/
def bytes (script : Script) : List UInt8 :=
  script.lines.toList.flatMap Line.bytes ++ script.torn

/-- The text of the lines written in full. -/
def text (script : Script) : String :=
  String.join (script.lines.toList.map Line.text)

end Script

end Retrace
