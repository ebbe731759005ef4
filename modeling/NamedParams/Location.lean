/-! The places of a request where a parameter can live. -/

namespace NamedParams

/-- The request location of a parameter. -/
inductive Location where
  /-- A segment of a URI template. -/
  | uri
  | query
  | form
  | header
  /-- A location that is not known yet. -/
  | base
  deriving DecidableEq

namespace Location

/-- Every location. -/
def all : List Location := [.uri, .query, .form, .header, .base]

/-- The token that names a location. -/
def name : Location → String
  | .uri => "uri"
  | .query => "query"
  | .form => "form"
  | .header => "header"
  | .base => "base"

/-- The location that a token names exactly. -/
def ofName? : String → Option Location
  | "uri" => some .uri
  | "query" => some .query
  | "form" => some .form
  | "header" => some .header
  | "base" => some .base
  | _ => none

/-- Whether parameters are required here when their declaration does not say. -/
def requiredByDefault : Location → Bool
  | .uri => true
  | _ => false

end Location

end NamedParams
