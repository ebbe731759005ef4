import NamedParams.Declaration
import NamedParams.Location
import NamedParams.Slots

/-! Checked parameters. -/

namespace NamedParams

/-- A type with the attributes declared for it. -/
structure Definition where
  type : ParameterType
  slots : Slots
  deriving BEq

/-- The declaration of a definition, its type spelled out. -/
def Definition.toMapping (d : Definition) : Mapping :=
  d.slots.toMapping.insert typeKey (.string d.type.name)

/-- A parameter of one type. -/
structure TypedParameter where
  name : String
  location : Location
  definition : Definition
  deriving BEq

/-- A checked parameter, of one type or with alternative types. -/
inductive Parameter where
  | single (p : TypedParameter)
  /-- The alternatives stand in the order of their declaration. -/
  | multiple (name : String) (location : Location) (alternatives : List TypedParameter)
  deriving BEq

namespace Parameter

/-- The name of a parameter. -/
def name : Parameter → String
  | .single p => p.name
  | .multiple name _ _ => name

/-- The request location of a parameter. -/
def location : Parameter → Location
  | .single p => p.location
  | .multiple _ location _ => location

/-- The definition of a parameter of one type. -/
def definition? : Parameter → Option Definition
  | .single p => some p.definition
  | .multiple _ _ _ => none

/-- The type of a parameter of one type. -/
def type? (p : Parameter) : Option ParameterType := p.definition?.map (·.type)

/-- The attributes of a parameter; one with alternatives has none of its own. -/
def slots (p : Parameter) : Slots := (p.definition?.map (·.slots)).getD .empty

/-- The alternatives of a parameter; one of a single type has none. -/
def alternatives : Parameter → List TypedParameter
  | .single _ => []
  | .multiple _ _ alternatives => alternatives

/-- Whether a parameter has alternatives. -/
def hasAlternatives : Parameter → Bool
  | .single _ => false
  | .multiple _ _ _ => true

/-- Whether a value must be given: as declared, or else as usual for the location. -/
def isRequired (p : Parameter) : Bool := p.slots.required.getD p.location.requiredByDefault

/-- A declaration that is checked to an equal parameter. -/
def toDeclaration : Parameter → Declaration
  | .single p => .single p.definition.toMapping
  | .multiple _ _ alternatives => .alternatives (alternatives.map (·.definition.toMapping))

/-- Equality of types, attributes and alternatives; only the outermost labels may differ. -/
def sameShape : Parameter → Parameter → Bool
  | .single p, .single q => p.definition == q.definition
  | .multiple _ _ left, .multiple _ _ right => left == right
  | _, _ => false

end Parameter

end NamedParams
