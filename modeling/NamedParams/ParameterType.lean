import NamedParams.Raw

/-! The closed set of types that a named parameter can have. -/

namespace NamedParams

/-- The type of a named parameter. -/
inductive ParameterType where
  | string
  | number
  | integer
  | date
  | boolean
  | file
  deriving DecidableEq

namespace ParameterType

/-- Every type, in the order in which they are documented. -/
def all : List ParameterType := [.string, .number, .integer, .date, .boolean, .file]

/-- The token that names a type. -/
def name : ParameterType → String
  | .string => "string"
  | .number => "number"
  | .integer => "integer"
  | .date => "date"
  | .boolean => "boolean"
  | .file => "file"

/-- The type that a token names exactly. -/
def ofName? : String → Option ParameterType
  | "string" => some .string
  | "number" => some .number
  | "integer" => some .integer
  | "date" => some .date
  | "boolean" => some .boolean
  | "file" => some .file
  | _ => none

/-- Whether values of the type are numbers. -/
def isNumeric : ParameterType → Bool
  | .number | .integer => true
  | _ => false

/-- The declared type, or the text of a token that names none; no token means a string. -/
def resolve : Option Raw → Except String ParameterType
  | none | some .null => .ok .string
  | some (.string token) =>
    match ofName? token with
    | some type => .ok type
    | none => .error token
  | some other => .error other.text

end ParameterType

end NamedParams
