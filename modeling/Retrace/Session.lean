import Retrace.Clause.Reader
import Retrace.Formula
import Retrace.Justification.Reader
import Retrace.Reconstruction
import Retrace.Text.Lines

/-!
Sessions: one pass over a trace. Every line is read, its clause is entered in the graph and handed to
the reconstruction before the next line is looked at.
-/

namespace Retrace

/-- What a session does besides writing the script. -/
structure Preferences where
  /-- Every line of the trace that is not blank becomes a comment of the script. -/
  verbose : Bool := false
  /-- Every clause is noted in full. -/
  veryVerbose : Bool := false
  /-- The name of the lemma. -/
  label : Option String := none
  deriving DecidableEq, Repr

/-- Something that a session remarks beside the script. -/
inductive Note where
  /-- A clause in full. -/
  | clause (clause : Clause)
  /-- A derived clause has a role that belongs to clauses that are given. -/
  | givenRole (name role : String)
  /-- The conjecture comes after the first derived clause. -/
  | lateConjecture (name : String)
  deriving DecidableEq, Repr

/-- A pass over a trace, under way. -/
structure Session where
  graph : Graph := {}
  reconstruction : Reconstruction
  preferences : Preferences
  /-- The clauses without parents, those among them that the graph refused included. -/
  roots : Nat := 0
  /-- The clauses with parents, those among them that the graph refused included. -/
  derived : Nat := 0
  /-- The notes so far, in order. -/
  notes : Array Note := #[]
  deriving DecidableEq, Repr

/-- The figures of a pass that is over. -/
structure Summary where
  method : Method
  clauses : Nat
  roots : Nat
  derived : Nat
  /-- The numbered rules. -/
  rules : Nat
  /-- The names in the final core. -/
  core : List String
  scriptLines : Nat
  deriving DecidableEq, Repr

/-- The clause that an entry of a trace stands for. -/
def Clause.ofEntry (line : Nat) (entry : Clause.Entry) : Except Fault Clause := do
  let parents ← Justification.parents entry.justification
  return {
    language := entry.language
    name := entry.name
    role := .ofText entry.role
    formula := Formula.translate entry.formula
    givenFormula := entry.formula
    givenJustification := entry.justification
    parents
    line }

namespace Session

/-- A session before the first line. -/
def new (method : Method) (preferences : Preferences) (room : Option Nat) : Session :=
  { reconstruction := .new method preferences.label room, preferences }

/-- The script so far. -/
def script (session : Session) : Script :=
  session.reconstruction.script

/-- Makes an attempt on the reconstruction. -/
def onReconstruction {α : Type} : Attempt Reconstruction α → Attempt Session α :=
  Attempt.onPart reconstruction fun reconstruction session => { session with reconstruction }

/-- Makes a note. -/
def note (remark : Note) : Attempt Session Unit :=
  modify fun session => { session with notes := session.notes.push remark }

/-- Writes a line of the trace as a comment, unless it is blank. -/
def echo (text : String) : Attempt Session Unit := do
  let shown := Text.trim text.toList
  unless shown.isEmpty do
    onReconstruction (Reconstruction.onOutline (Outline.write (.comment (String.ofList shown))))

/-- Counts a clause as a root or as derived. -/
def count (clause : Clause) (session : Session) : Session :=
  if clause.isRoot then { session with roots := session.roots + 1 }
  else { session with derived := session.derived + 1 }

/-- Takes a clause: makes the notes due, counts it, enters it in the graph and has it written. -/
def take (clause : Clause) : Attempt Session Unit := do
  if ! clause.isRoot && clause.role.isGiven then
    note (.givenRole clause.name clause.role.text)
  if (← get).preferences.veryVerbose then
    note (.clause clause)
  -- A clause counts even if the graph refuses it next.
  modify (count clause)
  let graph ← ofExcept ((← get).graph.insert clause)
  modify fun session => { session with graph }
  if (← get).reconstruction.outline.isLateConjecture clause then
    note (.lateConjecture clause.name)
  onReconstruction (Reconstruction.step clause)

/-- Takes one line of the trace. -/
def feedLine (line : Nat) (text : String) : Attempt Session Unit := do
  if (← get).preferences.verbose then
    echo text
  if let some entry ← ofExcept (Clause.readLine text) then
    take (← ofExcept (Clause.ofEntry line entry))

/-- Takes several lines, the first of which has the given number. -/
def feedLines (line : Nat) : List String → Attempt Session Unit
  | [] => pure ()
  | text :: texts => do
    feedLine line text
    feedLines (line + 1) texts

/-- The fault of a line whose bytes are no UTF-8 text. -/
def undecodable : Fault :=
  .transfer "stream did not contain valid UTF-8"

/-- Takes several lines of bytes, each of which has to be UTF-8 text. -/
def feedBytes (line : Nat) : List (List UInt8) → Attempt Session Unit
  | [] => pure ()
  | bytes :: others => do
    match String.fromUTF8? ⟨bytes.toArray⟩ with
    | some text => feedLine line text
    | none => throw undecodable
    feedBytes (line + 1) others

/-- Closes the script. -/
def finish : Attempt Session Summary := do
  let graph := (← get).graph
  let closing ← onReconstruction (Reconstruction.finish graph)
  let session ← get
  return {
    method := session.reconstruction.method
    clauses := session.graph.size
    roots := session.roots
    derived := session.derived
    rules := closing.rules
    core := closing.core
    scriptLines := session.script.lines.size }

/-- Takes a whole trace held as a text, and closes the script. -/
def runText (trace : String) : Attempt Session Summary := do
  feedLines 1 ((Text.charLines trace.toList).map String.ofList)
  finish

/-- Takes a whole trace held as bytes, and closes the script. -/
def runBytes (content : List UInt8) : Attempt Session Summary := do
  feedBytes 1 (Text.byteLines content)
  finish

end Session

/-- What reading a file gives: its bytes, or the complaint of the system. -/
abbrev Contents : Type :=
  Except String (List UInt8)

namespace Command

/-- Runs a session on the contents of a file. What cannot be read is a fault before the first
line. -/
def runContents (contents : Contents) : Attempt Session Summary :=
  match contents with
  | .ok bytes => Session.runBytes bytes
  | .error complaint => throw (.transfer complaint)

end Command

/-- The script for a trace held as a text, and its figures. -/
def translateTrace (method : Method) (preferences : Preferences) (trace : String) :
    Except Fault (String × Summary) :=
  match Session.runText trace (Session.new method preferences none) with
  | .ok summary session => .ok (session.script.text, summary)
  | .error fault _ => .error fault

end Retrace
