import NamedParams.Json.Reader
import NamedParams.Log.Sink
import NamedParams.Report

/-! The command line: checking a file of declarations, and printing the table of types. -/

namespace NamedParams.CommandLine

open Log (Event Output Sink)

/-- The forms of a report. -/
inductive Format where
  | human
  | json
  deriving DecidableEq

/-- The format that an argument names. -/
def Format.ofName? : String → Option Format
  | "human" => some .human
  | "json" => some .json
  | _ => none

/-- What a command line asks for. -/
inductive Command where
  | check (path : String) (location : Location) (format : Format)
  | types
  | version
  | help
  deriving DecidableEq

/-- The arguments of a check read so far. -/
structure CheckArguments where
  path : Option String
  location : Option Location
  format : Option Format

/-- Sets the path, once. -/
def CheckArguments.setPath (a : CheckArguments) (text : String) : Option CheckArguments :=
  if a.path.isSome || text.isEmpty then none else some { a with path := some text }

/-- Sets the option with a name, once. -/
def CheckArguments.setOption (a : CheckArguments) (name value : String) : Option CheckArguments :=
  if name = "--location" then
    if a.location.isSome then none
    else (Location.ofName? value).map fun location => { a with location := some location }
  else if name = "--format" then
    if a.format.isSome then none
    else (Format.ofName? value).map fun format => { a with format := some format }
  else none

/-- An option that carries its value behind an equality sign. -/
def splitOption (text : String) : Option (String × String) :=
  let name := text.toList.takeWhile (· != '=')
  if name.length < text.length then
    some (String.ofList name, String.ofList (text.toList.drop (name.length + 1)))
  else none

/-- Whether an argument asks for help. -/
def asksHelp (text : String) : Bool := text = "--help" || ['-', 'h'].isPrefixOf text.toList

/-- Reads the arguments of a check. -/
def parseCheck : List String → CheckArguments → Option Command
  | [], a => a.path.map fun path =>
    .check path (a.location.getD .base) (a.format.getD .human)
  | "--" :: rest, a => do
    -- Behind two hyphens, every argument is a path.
    let a ← rest.foldlM CheckArguments.setPath a
    a.path.map fun path => .check path (a.location.getD .base) (a.format.getD .human)
  | text :: rest, a =>
    if asksHelp text then some .help
    else if ['-', '-'].isPrefixOf text.toList then
      match splitOption text with
      | some (name, value) => do parseCheck rest (← a.setOption name value)
      | none =>
        match rest with
        | [] => none
        | value :: rest => do parseCheck rest (← a.setOption text value)
    else if ['-'].isPrefixOf text.toList && text.length ≠ 1 then none
    else do parseCheck rest (← a.setPath text)

/-- Reads a command line; one that is not understood gives nothing. -/
def Command.parse : List String → Option Command
  | [] => none
  | "check" :: rest => parseCheck rest ⟨none, none, none⟩
  | ["types"] => some .types
  | "types" :: option :: _ => if asksHelp option then some .help else none
  | "help" :: rest =>
    if rest = [] || rest = ["check"] || rest = ["types"] || rest = ["help"] then some .help
    else none
  | option :: _ =>
    if asksHelp option then some .help
    else if option = "--version" || ['-', 'V'].isPrefixOf option.toList then some .version
    else none

/-- Why a file cannot be read. -/
inductive FileFault where
  | notFound
  | denied
  | notDirectory
  | isDirectory
  | notText
  | other (message : String)
  deriving DecidableEq

/-- The wording of a fault. -/
def FileFault.message : FileFault → String
  | .notFound => "No such file or directory (os error 2)"
  | .denied => "Permission denied (os error 13)"
  | .notDirectory => "Not a directory (os error 20)"
  | .isDirectory => "Is a directory (os error 21)"
  | .notText => "stream did not contain valid UTF-8"
  | .other message => message

/-- Why a check comes to no results. -/
inductive CheckFault where
  | unreadable (path : String) (cause : FileFault)
  | notJson (path : String) (cause : String)
  | notObject (path : String)
  deriving DecidableEq

/-- The wordings of a fault and of its cause, if it has one. -/
def CheckFault.messages : CheckFault → List String
  | .unreadable path cause => [s!"Failed to read {path}", cause.message]
  | .notJson path cause => [s!"Failed to parse {path} as JSON", cause]
  | .notObject path => [s!"{path} must contain a JSON object of parameter declarations"]

/-- A fault with its cause below it. -/
def CheckFault.text (fault : CheckFault) : String :=
  match fault.messages with
  | [] => "Error: \n"
  | [message] => s!"Error: {message}\n"
  | message :: causes =>
    s!"Error: {message}\n\nCaused by:\n" ++ String.join (causes.map fun cause => s!"    {cause}\n")

/-- The declarations in the content of a file. -/
def readDeclarations (path : String) (content : Except FileFault String) :
    Except CheckFault (List (String × Json)) :=
  match content with
  | .error cause => .error (.unreadable path cause)
  | .ok text =>
    match Json.read text with
    | .error e => .error (.notJson path (e.message text))
    | .ok (.object entries) => .ok entries
    | .ok _ => .error (.notObject path)

/-- Checks the declarations in the content of a file. -/
def check (s : Setting) (gate : Log.Gate) (path : String) (content : Except FileFault String) :
    Except CheckFault (Log.Traced Results) :=
  (readDeclarations path content).map fun entries => s.checkEntries gate entries

/-- What a program leaves behind: its exit status and its output. -/
structure Outcome where
  status : Nat
  output : Output
  deriving DecidableEq

/-- What surrounds a run of the program. -/
structure Surroundings where
  environment : Environment
  /-- The content of the file at a path. -/
  file : String → Except FileFault String
  /-- The time that log lines carry, in seconds. -/
  seconds : Int

/-- The event that starts every log. -/
def logReady : Event := .success .logReady "Global logging system initialized"

/-- Runs a check with log lines and a report for people. -/
def runForPeople (around : Surroundings) (path : String) (s : Setting) : Outcome :=
  let log := LogPreferences.ofEnvironment around.environment
  let gate := some log.minimum
  let started := (Log.Traced.deliver gate logReady).events
  match check s gate path (around.file path) with
  | .error fault =>
    ⟨1, (log.sink.writeAll around.seconds started).append ⟨"", fault.text⟩⟩
  | .ok traced =>
    let written := log.sink.writeAll around.seconds (started ++ traced.events)
    ⟨if traced.value.failures = 0 then 0 else 1, written.append ⟨traced.value.text, ""⟩⟩

/-- Runs a check whose only output is a report in JSON. -/
def runForPrograms (around : Surroundings) (path : String) (s : Setting) : Outcome :=
  match check s none path (around.file path) with
  | .error fault => ⟨1, ⟨"", fault.text⟩⟩
  | .ok traced =>
    let report := traced.value.toJson.indented 0 ++ "\n"
    ⟨if traced.value.failures = 0 then 0 else 1, ⟨report, ""⟩⟩

/-- The version of the program. -/
def versionText : String := "raml-params 0.1.0\n"

/-- What the program does. -/
def helpText : String :=
  "Validate RAML named parameter declarations\n\n" ++
  "Usage: raml-params <COMMAND>\n\n" ++
  "Commands:\n" ++
  "  check  Construct every parameter declared in a JSON file\n" ++
  "  types  Print the type to legal-attribute table\n" ++
  "  help   Print this message or the help of the given subcommand(s)\n\n" ++
  "Options:\n" ++
  "  -h, --help     Print help\n" ++
  "  -V, --version  Print version\n"

/-- How the program is used. -/
def usageText : String := "Usage: raml-params <COMMAND>\n\nFor more information, try '--help'.\n"

/-- Runs the program; arguments that are not understood give the status two. -/
def run (around : Surroundings) (arguments : List String) : Outcome :=
  match Command.parse arguments with
  | none => ⟨2, ⟨"", usageText⟩⟩
  | some .help => ⟨0, ⟨helpText, ""⟩⟩
  | some .version => ⟨0, ⟨versionText, ""⟩⟩
  | some .types => ⟨0, ⟨typeTable, ""⟩⟩
  | some (.check path location format) =>
    let s : Setting := ⟨location, .ofEnvironment around.environment⟩
    match format with
    | .human => runForPeople around path s
    | .json => runForPrograms around path s

end NamedParams.CommandLine
