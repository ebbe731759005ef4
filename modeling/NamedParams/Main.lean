import NamedParams.CommandLine
import Std.Time

/-! The program: it gathers its surroundings, runs, and prints what is left. -/

open NamedParams CommandLine

/-- Why the system could not read a file. -/
def fileFault : IO.Error → FileFault
  | .noFileOrDirectory .. => .notFound
  | .permissionDenied .. => .denied
  | .inappropriateType .. => .isDirectory
  | e => .other (toString e)

/-- Reads a file as text. -/
def readContent (path : String) : IO (Except FileFault String) := do
  try
    let bytes ← IO.FS.readBinFile path
    match String.fromUTF8? bytes with
    | some text => pure (.ok text)
    | none => pure (.error .notText)
  catch e => pure (.error (fileFault e))

/-- The variables that the program looks at. -/
def readEnvironment : IO Environment := do
  let names := [
    "RAML_PARAMETER_LOG_ATTRIBUTES", "RAML_PARAMETER_LOG_SUCCESS",
    "RAML_PARAMETER_INCLUDE_VALUES", "RAML_PARAMETER_LOGGING_USE_STRUCTURED",
    "RAML_PARAMETER_LOGGING_ENABLE_CONSOLE", "RAML_PARAMETER_LOGGING_MIN_LEVEL"]
  let pairs ← names.filterMapM fun name => do
    pure ((← IO.getEnv name).map fun value => (name, value))
  pure fun name => pairs.lookup name

/-- Runs the program on the arguments of the process. -/
def main (arguments : List String) : IO UInt32 := do
  -- Only a check reads a file, and only the one that it names.
  let content ← match Command.parse arguments with
    | some (.check path _ _) => readContent path
    | _ => pure (.error .notFound)
  let now ← Std.Time.Timestamp.now
  let around : Surroundings := ⟨← readEnvironment, fun _ => content, now.val.second.val⟩
  let outcome := run around arguments
  (← IO.getStdout).putStr outcome.output.stdout
  (← IO.getStderr).putStr outcome.output.stderr
  pure outcome.status.toUInt32
