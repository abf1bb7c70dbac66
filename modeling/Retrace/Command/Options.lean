import Retrace.Command.Plain

/-!
The options of the command line and how they are read. Reading takes the arguments one by one; an
option that takes a value waits for it until the next option, or the end, shows that none comes.
-/

namespace Retrace.Options

/-- An option that the command line knows. -/
inductive Switch where
  | file
  | verbose
  | veryVerbose
  | direct
  | debug
  | label
  | help
  deriving DecidableEq, Repr

namespace Switch

/-- Every option, in the order in which the usage lists them. -/
def all : List Switch :=
  [file, verbose, veryVerbose, direct, debug, label, help]

/-- The long name of an option. -/
def long : Switch → String
  | file => "file"
  | verbose => "verbose"
  | veryVerbose => "very-verbose"
  | direct => "direct"
  | debug => "debug"
  | label => "label"
  | help => "help"

/-- The letter that stands for an option. -/
def letter : Switch → Char
  | file => 'f'
  | verbose => 'v'
  | veryVerbose => 'V'
  | direct => 'g'
  | debug => 'd'
  | label => 'l'
  | help => 'h'

/-- What the value of an option is called, if it takes one. -/
def valueName? : Switch → Option String
  | file => some "PATH"
  | label => some "NAME"
  | _ => none

/-- Whether an option takes a value. -/
def takesValue (switch : Switch) : Bool :=
  switch.valueName?.isSome

/-- An option as messages name it. -/
def shown (switch : Switch) : String :=
  match switch.valueName? with
  | some value => "--" ++ switch.long ++ " <" ++ value ++ ">"
  | none => "--" ++ switch.long

/-- The option with a given long name. -/
def ofLong? (name : String) : Option Switch :=
  all.find? (·.long == name)

/-- The option with a given letter. -/
def ofLetter? (c : Char) : Option Switch :=
  all.find? (·.letter == c)

end Switch

/-- Why arguments cannot be read to the end. -/
inductive Misuse where
  /-- The usage is asked for. -/
  | helpWanted
  | unexpectedArgument (argument : String)
  | unexpectedValue (switch : Switch) (value : String)
  | missingValue (switch : Switch)
  | repeated (switch : Switch)
  deriving DecidableEq, Repr

/-- The options read so far. -/
structure Reading where
  /-- The option read last that takes a value, with its value once that has come. -/
  pending : Option (Switch × Option String) := none
  /-- The options that are settled, with their values. -/
  settled : List (Switch × Option String) := []
  deriving DecidableEq, Repr

namespace Reading

/-- Whether an option has been given. -/
def has (reading : Reading) (switch : Switch) : Bool :=
  reading.settled.any (·.1 == switch)

/-- The value that an option has been given. -/
def value? (reading : Reading) (switch : Switch) : Option String :=
  (reading.settled.find? (·.1 == switch)).bind (·.2)

/-- Takes an option with its value. No option is given twice, an option that takes a value needs
one, and the path of a file is not empty. -/
def accept (switch : Switch) (value : Option String) (reading : Reading) : Except Misuse Reading :=
  if switch = .help then .error .helpWanted
  else if switch.takesValue && value.isNone then .error (.missingValue switch)
  else if reading.has switch then .error (.repeated switch)
  else if switch = .file ∧ value = some "" then .error (.missingValue switch)
  else .ok { reading with settled := reading.settled ++ [(switch, value)] }

/-- Takes the option that waits, if one does. -/
def settle (reading : Reading) : Except Misuse Reading :=
  match reading.pending with
  | some (switch, value) => accept switch value { reading with pending := none }
  | none => .ok reading

/-- Takes the option that waits and then another. -/
def react (switch : Switch) (value : Option String) (reading : Reading) : Except Misuse Reading := do
  accept switch value (← reading.settle)

/-- Takes the option that waits and lets another wait for its value. -/
def await (switch : Switch) (reading : Reading) : Except Misuse Reading := do
  return { ← reading.settle with pending := some (switch, none) }

/-- Reads an option by its long name; an equals sign sets off a value. -/
def readLong (text : List Char) (reading : Reading) : Except Misuse Reading :=
  let name := String.ofList (text.takeWhile (· != '='))
  let value := (text.dropWhile (· != '=')).tail?.map String.ofList
  match Switch.ofLong? name with
  | none => .error (.unexpectedArgument ("--" ++ name))
  | some switch =>
    match switch.takesValue, value with
    | true, none => reading.await switch
    | false, some value => .error (.unexpectedValue switch value)
    | _, value => reading.react switch value

/-- Reads options by their letters. What follows the letter of an option that takes a value is the
value, with or without an equals sign in front. -/
def readLetters (reading : Reading) : List Char → Except Misuse Reading
  | [] => .ok reading
  | c :: rest =>
    match Switch.ofLetter? c with
    | none => .error (.unexpectedArgument (String.ofList ['-', c]))
    | some switch =>
      if switch.takesValue then
        match rest with
        | [] => reading.await switch
        | '=' :: value => reading.react switch (some (String.ofList value))
        | value => reading.react switch (some (String.ofList value))
      else do readLetters (← reading.react switch none) rest

/-- Reads an argument that is no option. It has to be the value that an option waits for. -/
def readValue (argument : String) (reading : Reading) : Except Misuse Reading :=
  match reading.pending with
  | some (switch, none) => .ok { reading with pending := some (switch, some argument) }
  | _ => .error (.unexpectedArgument argument)

/-- Reads the remaining arguments. Behind two hyphens that stand alone no argument is expected. -/
def readAll (reading : Reading) : List String → Except Misuse Reading
  | [] => reading.settle
  | argument :: arguments =>
    match argument.toList with
    | ['-', '-'] =>
      -- The option that waits for a value goes on waiting, but no argument may follow.
      match arguments with
      | [] => reading.settle
      | extra :: _ => .error (.unexpectedArgument extra)
    | '-' :: '-' :: text => do readAll (← reading.readLong text) arguments
    | '-' :: c :: letters => do readAll (← reading.readLetters (c :: letters)) arguments
    | _ => do readAll (← reading.readValue argument) arguments

end Reading

/-- Several lines with a line feed after each. -/
def joinLines (lines : List String) : String :=
  String.join (lines.map (· ++ "\n"))

/-- What an option does. -/
def Switch.about : Switch → String
  | file => "TSTP proof file to translate"
  | verbose => "Echo every input line into the script as a comment"
  | veryVerbose => "Dump every parsed clause to stderr as JSON"
  | direct => "Reconstruct by direct chaining instead of tableau embedding"
  | debug => "Debug tracing on stderr"
  | label => "Name of the generated lemma"
  | help => "Print help"

/-- How the usage lists an option: its letter and its long name, and in a second column what it
does. -/
def Switch.usageLine (width : Nat) (switch : Switch) : String :=
  let names := "-" ++ switch.letter.toString ++ ", " ++ switch.shown
  "  " ++ names.pushn ' ' (width - names.length) ++ "  " ++ switch.about

/-- The usage of the command line. -/
def usage : String :=
  joinLines ([
    "Reconstructs Isabelle/Isar proof scripts from TSTP proof traces emitted by E",
    "",
    "Usage: tstp2isar [OPTIONS]",
    "",
    "Options:"] ++ Switch.all.map (Switch.usageLine 18))

/-- The report of a misuse. -/
def Misuse.report : Misuse → String
  | helpWanted => usage
  | unexpectedArgument argument => "error: unexpected argument '" ++ Text.plain argument ++ "' found"
  | unexpectedValue switch value =>
    "error: unexpected value '" ++ Text.plain value ++ "' for '" ++ switch.shown ++
      "' found; no more were expected"
  | missingValue switch =>
    "error: a value is required for '" ++ switch.shown ++ "' but none was supplied"
  | repeated switch => "error: the argument '" ++ switch.shown ++ "' cannot be used multiple times"

/-- Reads the arguments of a command line, the name of the program left out. -/
def read (arguments : List String) : Except Misuse Reading :=
  Reading.readAll {} arguments

end Retrace.Options
