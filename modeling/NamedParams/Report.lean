import NamedParams.Construction

/-! Checking a document of declarations and reporting the results. -/

namespace NamedParams

open Log (Gate Traced)

/-- The results of a document, under the names of its parameters and in the order of their names. -/
abbrev Results := List (String × Except Failure Parameter)

/-- Constructs every parameter that a document declares. -/
def Setting.checkEntries (s : Setting) (gate : Gate) : List (String × Json) → Traced Results
  | [] => pure []
  | (name, value) :: rest => do
    let result ← s.constructJson gate name value
    let others ← s.checkEntries gate rest
    pure ((name, result) :: others)

namespace Results

/-- Whether a parameter was not constructed. -/
def isFailure : Except Failure Parameter → Bool
  | .error _ => true
  | .ok _ => false

/-- The number of parameters that were not constructed. -/
def failures (results : Results) : Nat := results.countP fun entry => isFailure entry.2

/-- The line about one parameter. -/
def line (name : String) : Except Failure Parameter → String
  | .error failure => s!"FAIL  {name} [{failure.code.text}] {failure.message}"
  | .ok (.multiple _ _ alternatives) =>
    let types := alternatives.map (·.definition.type.name)
    s!"ok    {name} (" ++ " | ".intercalate types ++ ")"
  | .ok (.single p) =>
    let required := if (Parameter.single p).isRequired then ", required" else ""
    s!"ok    {name} ({p.definition.type.name}{required})"

/-- The report for people: a line for each parameter, and a summary. -/
def text (results : Results) : String :=
  let lines := results.map fun entry => line entry.1 entry.2 ++ "\n"
  String.join lines ++
    s!"\n{results.length} parameter(s) checked, {results.failures} failed\n"

/-- The declarations of the parameters that were constructed, under their names. -/
def declarations (results : Results) : List (String × Json) :=
  results.filterMap fun entry =>
    match entry.2 with
    | .ok parameter => some (entry.1, parameter.toDeclaration.toJson)
    | .error _ => none

/-- What is reported about each parameter that was not constructed. -/
def errors (results : Results) : List Json :=
  results.filterMap fun entry =>
    match entry.2 with
    | .ok _ => none
    | .error failure => some (Json.ofEntries [
      ("parameter", .string entry.1),
      ("code", .string failure.code.text),
      ("message", .string failure.message)])

/-- The report as JSON: what was constructed, and what was not. -/
def toJson (results : Results) : Json :=
  Json.ofEntries [
    ("checked", Json.ofNat results.length),
    ("failed", Json.ofNat results.failures),
    ("parameters", Json.ofEntries results.declarations),
    ("errors", .array results.errors)]

end Results

/-- Spaces up to a width. -/
def padRight (text : String) (width : Nat) : String :=
  text ++ String.ofList (List.replicate (width - text.length) ' ')

/-- The types with the attributes that apply to them, for people. -/
def typeTable : String :=
  let rows := ParameterType.all.map fun type =>
    let names := (Attribute.specific type).map Attribute.name
    padRight type.name 8 ++ " " ++ (if names.isEmpty then "-" else ", ".intercalate names) ++ "\n"
  let universal := ", ".intercalate (Attribute.universal.map Attribute.name)
  String.join rows ++ "\nLegal for every type: " ++ universal ++ "\n"

end NamedParams
