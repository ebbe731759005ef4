import NamedParams.Mapping

/-! Raw declarations of named parameters. -/

namespace NamedParams

/-- What is declared for one parameter name. -/
inductive Declaration where
  /-- One mapping of attributes. -/
  | single (mapping : Mapping)
  /-- Alternative definitions, in the order they were declared. -/
  | alternatives (mappings : List Mapping)

/-- Why a value is not a declaration. -/
inductive DeclarationFault where
  | neitherMappingNorSequence (found : Kind)
  | alternativeNotMapping (index : Nat) (found : Kind)
  | noAlternatives
  deriving DecidableEq

/-- The wording of a fault. -/
def DeclarationFault.message : DeclarationFault → String
  | .neitherMappingNorSequence found =>
    s!"Declaration must be a mapping or a sequence of mappings, found {found.name}"
  | .alternativeNotMapping index found =>
    s!"Alternative type at index {index} must be a mapping, found {found.name}"
  | .noAlternatives => "Declaration lists no alternative types"

namespace Declaration

/-- Reads the alternatives from an index on, and stops at the first one that is no mapping. -/
def readAlternatives : Nat → List Raw → Except DeclarationFault (List Mapping)
  | _, [] => .ok []
  | index, .mapping entries :: rest =>
    match readAlternatives (index + 1) rest with
    | .ok mappings => .ok (Mapping.ofList entries :: mappings)
    | .error fault => .error fault
  | index, other :: _ => .error (.alternativeNotMapping index other.kind)

/-- A mapping declares one type, and a sequence of mappings declares alternatives. -/
def ofRaw : Raw → Except DeclarationFault Declaration
  | .mapping entries => .ok (.single (Mapping.ofList entries))
  | .array [] => .error .noAlternatives
  | .array items => (readAlternatives 0 items).map .alternatives
  | other => .error (.neitherMappingNorSequence other.kind)

/-- The declaration that a JSON value stands for. -/
def ofJson (value : Json) : Except DeclarationFault Declaration := ofRaw (Raw.ofJson value)

/-- The JSON value that stands for a declaration. -/
def toJson : Declaration → Json
  | .single mapping => mapping.toRaw.toJson
  | .alternatives mappings => .array (mappings.map fun mapping => mapping.toRaw.toJson)

/-- Whether the declaration lists alternatives. -/
def isMultiple : Declaration → Bool
  | .single _ => false
  | .alternatives _ => true

end Declaration

end NamedParams
