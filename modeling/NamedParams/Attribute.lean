import NamedParams.ParameterType

/-! The attributes of a declaration and the types to which each one applies. -/

namespace NamedParams

/-- The key of the declared type, which is not an attribute. -/
def typeKey : String := "type"

/-- An attribute of a declaration. -/
inductive Attribute where
  | required
  | repeated
  | defaultValue
  | example
  | displayName
  | description
  | minLength
  | maxLength
  | choices
  | pattern
  | minimum
  | maximum
  deriving DecidableEq

namespace Attribute

/-- Every attribute, in the order of declaration. -/
def all : List Attribute :=
  [.required, .repeated, .defaultValue, .example, .displayName, .description,
    .minLength, .maxLength, .choices, .pattern, .minimum, .maximum]

/-- The place of an attribute in the order of declaration. -/
def index : Attribute → Nat
  | .required => 0
  | .repeated => 1
  | .defaultValue => 2
  | .example => 3
  | .displayName => 4
  | .description => 5
  | .minLength => 6
  | .maxLength => 7
  | .choices => 8
  | .pattern => 9
  | .minimum => 10
  | .maximum => 11

/-- The canonical key of an attribute, spelled with underscores. -/
def name : Attribute → String
  | .required => "required"
  | .repeated => "repeat"
  | .defaultValue => "default"
  | .example => "example"
  | .displayName => "display_name"
  | .description => "description"
  | .minLength => "min_length"
  | .maxLength => "max_length"
  | .choices => "enum"
  | .pattern => "pattern"
  | .minimum => "minimum"
  | .maximum => "maximum"

/-- The attribute that a key spells, canonically or with inner capitals. -/
def ofKey? : String → Option Attribute
  | "required" => some .required
  | "repeat" => some .repeated
  | "default" => some .defaultValue
  | "example" => some .example
  | "display_name" | "displayName" => some .displayName
  | "description" => some .description
  | "min_length" | "minLength" => some .minLength
  | "max_length" | "maxLength" => some .maxLength
  | "enum" => some .choices
  | "pattern" => some .pattern
  | "minimum" => some .minimum
  | "maximum" => some .maximum
  | _ => none

/-- The attribute with a canonical key. -/
def ofName? (name : String) : Option Attribute := all.find? fun a => a.name = name

/-- The attributes that apply to every type. -/
def universal : List Attribute :=
  [.required, .repeated, .defaultValue, .example, .displayName, .description]

/-- Whether an attribute applies to every type. -/
def isUniversal (a : Attribute) : Bool := universal.contains a

/-- The attributes that apply to a type beyond the universal ones. -/
def specific : ParameterType → List Attribute
  | .string => [.minLength, .maxLength, .choices, .pattern]
  | .number | .integer => [.minimum, .maximum]
  | .date | .boolean | .file => []

/-- All attributes that apply to a type, the universal ones first. -/
def legal (type : ParameterType) : List Attribute := universal ++ specific type

/-- Whether an attribute applies to a type. -/
def appliesTo (a : Attribute) (type : ParameterType) : Bool :=
  a.isUniversal || (specific type).contains a

end Attribute

end NamedParams
