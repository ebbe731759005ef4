/-! Codes of log events and what is known about them. -/

namespace NamedParams.Log

/-- A code that classifies an event. -/
structure Code where
  text : String
  deriving DecidableEq

/-- How urgent the events of a code are. -/
inductive Severity where
  | critical
  | high
  | medium
  | low
  deriving DecidableEq

/-- The name of a severity. -/
def Severity.name : Severity → String
  | .critical => "Critical"
  | .high => "High"
  | .medium => "Medium"
  | .low => "Low"

/-- The place of a severity, the most urgent first. -/
def Severity.rank : Severity → Nat
  | .critical => 0
  | .high => 1
  | .medium => 2
  | .low => 3

/-- What is known about a code. -/
structure CodeEntry where
  code : Code
  category : String
  severity : Severity
  description : String
  action : String

namespace Code

/-- The log could not be set up. -/
def logSetupFailed : Code := ⟨"ERR002"⟩

/-- The declared type is none of the known ones. -/
def unknownType : Code := ⟨"E300"⟩

/-- An attribute does not apply to the type. -/
def inapplicableAttribute : Code := ⟨"E301"⟩

/-- The value of an attribute is not acceptable. -/
def invalidValue : Code := ⟨"E302"⟩

/-- A pattern is not acceptable. -/
def invalidPattern : Code := ⟨"E303"⟩

/-- A value is no declaration. -/
def malformedDeclaration : Code := ⟨"E310"⟩

/-- A parameter has many alternative types. -/
def manyAlternatives : Code := ⟨"W301"⟩

/-- The log has been set up. -/
def logReady : Code := ⟨"I004"⟩

/-- A parameter of one type has been constructed. -/
def constructed : Code := ⟨"I300"⟩

/-- A parameter with alternatives has been constructed. -/
def alternativesConstructed : Code := ⟨"I301"⟩

/-- A pattern has been compiled. -/
def patternCompiled : Code := ⟨"I302"⟩

/-- A warning without a code of its own. -/
def plainWarning : Code := ⟨"W000"⟩

/-- A note without a code of its own. -/
def plainInfo : Code := ⟨"I000"⟩

/-- A debugging note. -/
def plainDebug : Code := ⟨"D000"⟩

/-- Everything that is known about codes. -/
def registry : List CodeEntry := [
  ⟨logSetupFailed, "System", .critical, "Logging system initialization failure",
    "Check logging environment variables"⟩,
  ⟨unknownType, "Parameter", .high, "Declared parameter type is not recognized",
    "Use one of: string, number, integer, date, boolean, file"⟩,
  ⟨inapplicableAttribute, "Parameter", .medium,
    "Attribute is not applicable to the parameter type",
    "Remove the attribute or change the parameter type"⟩,
  ⟨invalidValue, "Parameter", .medium, "Attribute value has the wrong kind or shape",
    "Correct the attribute value to the documented kind"⟩,
  ⟨invalidPattern, "Parameter", .medium, "Pattern does not compile as a regular expression",
    "Fix the pattern syntax"⟩,
  ⟨malformedDeclaration, "Declaration", .high,
    "Declaration is neither a mapping nor a sequence of mappings",
    "Check the decoded document structure for this parameter"⟩,
  ⟨manyAlternatives, "Parameter", .low,
    "Parameter declares an unusually large number of alternative types",
    "Consider splitting the parameter"⟩,
  ⟨logReady, "System", .low, "Logging system initialized", "None"⟩,
  ⟨constructed, "Parameter", .low, "Parameter constructed", "None"⟩,
  ⟨alternativesConstructed, "Parameter", .low, "Multi-type parameter constructed", "None"⟩,
  ⟨patternCompiled, "Parameter", .low, "Pattern translated and compiled", "None"⟩]

/-- What is known about a code, if anything is. -/
def entry? (code : Code) : Option CodeEntry := registry.find? fun entry => entry.code = code

/-- The severity of a code; that of an unknown one is medium. -/
def severity (code : Code) : Severity := (code.entry?.map (·.severity)).getD .medium

/-- The description of a code. -/
def description (code : Code) : String := (code.entry?.map (·.description)).getD "Unknown error"

/-- What to do about an event of the code. -/
def action (code : Code) : String :=
  (code.entry?.map (·.action)).getD "No specific action available"

/-- The category of a code. -/
def category (code : Code) : String := (code.entry?.map (·.category)).getD "Unknown"

end Code

end NamedParams.Log
