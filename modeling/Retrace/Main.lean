import Retrace.Command

/-!
The program: reads the file that the arguments name and prints what the command leaves behind.
-/

namespace Retrace

/-- The complaint of the system about a file. -/
def complaint : IO.Error → String
  | .noFileOrDirectory .. => "No such file or directory (os error 2)"
  | .permissionDenied .. => "Permission denied (os error 13)"
  | .inappropriateType none _ _ => "Is a directory (os error 21)"
  | .inappropriateType (some _) _ _ => "Not a directory (os error 20)"
  | .invalidArgument _ _ "name too long" => "File name too long (os error 36)"
  | error => toString error

/-- The contents of the file at a path. -/
def readContents (path : String) : IO Contents := do
  try
    return .ok (← IO.FS.readBinFile path).data.toList
  catch error =>
    return .error (complaint error)

end Retrace

/-- Runs the command on the arguments of the program. -/
def main (arguments : List String) : IO UInt32 := do
  let outcome ← match Retrace.Command.configure arguments with
    | .error outcome => pure outcome
    | .ok config => do
      let contents ← Retrace.readContents config.file
      pure (Retrace.Command.execute config contents)
  IO.print outcome.output
  IO.eprint outcome.report
  return outcome.exit.toUInt32
