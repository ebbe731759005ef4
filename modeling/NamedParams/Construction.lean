import NamedParams.Preferences
import NamedParams.Refusal

/-! Constructing parameters from declarations. -/

namespace NamedParams

open Log (Code Event Gate Traced)

/-- The most characters of a rejected value that an error shows. -/
def maxShownValue : Nat := 120

/-- The number of alternatives above which a warning is logged. -/
def manyAlternativesThreshold : Nat := 8

/-- The circumstances under which parameters are constructed. -/
structure Setting where
  location : Location
  preferences : Preferences
  deriving DecidableEq

/-- The start of a text, with dots in place of what is left out. -/
def shorten (text : String) (limit : Nat) : String :=
  if limit < text.length then String.ofList (text.toList.take limit) ++ "..." else text

namespace Setting

/-- A rejected value as errors show it. -/
def showValue (s : Setting) (value : Raw) : String :=
  if s.preferences.includeValues then shorten value.text maxShownValue else "<redacted>"

end Setting

/-- The attributes that entries spell, up to the first key that does not apply to the type. -/
def readAttributes (name : String) (type : ParameterType) :
    List (String × Raw) → Except Refusal (List (Attribute × Raw))
  | [] => .ok []
  | (key, value) :: rest =>
    if key = typeKey then readAttributes name type rest
    else
      match (Attribute.ofKey? key).filter (·.appliesTo type) with
      | none => .error (.inapplicable name key type)
      | some a =>
        match readAttributes name type rest with
        | .ok others => .ok ((a, value) :: others)
        | .error refusal => .error refusal

namespace Setting

/-- The events that follow an accepted value. -/
def traceAccepted (s : Setting) (gate : Gate) (name : String) (a : Attribute) (slots : Slots) :
    Traced Unit := do
  if s.preferences.logAttributes then
    Traced.whenEnabled gate .debug fun _ =>
      (Event.debug "Attribute accepted").attachAll [("parameter", name), ("attribute", a.name)]
    match a, slots.pattern with
    | .pattern, some pattern =>
      Traced.deliver gate ((Event.success .patternCompiled "Pattern compiled").attachAll
        [("parameter", name), ("pattern", pattern.pinned)])
    | _, _ => pure ()

/-- Fills slots with the values of attributes, up to the first value that is rejected. -/
def fillSlots (s : Setting) (gate : Gate) (name : String) :
    List (Attribute × Raw) → Slots → Traced (Except Refusal Slots)
  | [], slots => pure (.ok slots)
  | (a, value) :: rest, slots =>
    match slots.apply a value with
    | .error reason => pure (.error (.invalidValue name a (s.showValue value) reason))
    | .ok filled => do
      s.traceAccepted gate name a filled
      s.fillSlots gate name rest filled

/-- Constructs a parameter of one type: first its type, then its keys, then their values. -/
def constructTyped (s : Setting) (gate : Gate) (name : String) (mapping : Mapping) :
    Traced (Except Refusal TypedParameter) :=
  match ParameterType.resolve (mapping.get? typeKey) with
  | .error token => pure (.error (.unknownType name token))
  | .ok type =>
    match readAttributes name type mapping.entries with
    | .error refusal => pure (.error refusal)
    | .ok declared => do
      match ← s.fillSlots gate name declared .empty with
      | .error refusal => pure (.error refusal)
      | .ok slots =>
        Traced.deliverIf s.preferences.logSuccess gate
          ((Event.success .constructed "Parameter constructed").attachAll
            [("parameter", name), ("type", type.name),
              ("attributes", toString slots.filled.length)])
        pure (.ok ⟨name, s.location, ⟨type, slots⟩⟩)

/-- Constructs alternatives in order, up to the first one that is refused. -/
def constructEach (s : Setting) (gate : Gate) (name : String) :
    List Mapping → Traced (Except Refusal (List TypedParameter))
  | [] => pure (.ok [])
  | mapping :: rest => do
    match ← s.constructTyped gate name mapping with
    | .error refusal => pure (.error refusal)
    | .ok first =>
      match ← s.constructEach gate name rest with
      | .error refusal => pure (.error refusal)
      | .ok others => pure (.ok (first :: others))

/-- Constructs a parameter with alternatives. -/
def constructMultiple (s : Setting) (gate : Gate) (name : String) (mappings : List Mapping) :
    Traced (Except Refusal Parameter) := do
  Traced.deliverIf (manyAlternativesThreshold < mappings.length) gate
    ((Event.warning .manyAlternatives "Parameter declares many alternative types").attachAll
      [("parameter", name), ("count", toString mappings.length)])
  match ← s.constructEach gate name mappings with
  | .error refusal => pure (.error refusal)
  | .ok alternatives =>
    Traced.deliverIf s.preferences.logSuccess gate
      ((Event.success .alternativesConstructed "Multi-type parameter constructed").attachAll
        [("parameter", name), ("alternatives", toString alternatives.length)])
    pure (.ok (.multiple name s.location alternatives))

/-- Constructs the parameter that a declaration declares. -/
def construct (s : Setting) (gate : Gate) (name : String) (declaration : Declaration) :
    Traced (Except Refusal Parameter) := do
  Traced.whenEnabled gate .debug fun _ =>
    (Event.debug "Constructing parameter").attachAll
      [("parameter", name), ("location", s.location.name),
        ("multiple", flagText declaration.isMultiple)]
  let result ← match declaration with
    | .single mapping => do
      pure ((← s.constructTyped gate name mapping).map .single)
    | .alternatives mappings => s.constructMultiple gate name mappings
  match result with
  | .error refusal =>
    Traced.whenEnabled gate .error fun _ =>
      (Event.error refusal.code refusal.message).attachAll
        [("parameter", name), ("error_type", refusal.kindName),
          ("severity", refusal.code.severity.name)]
  | .ok _ => pure ()
  pure result

/-- Constructs the parameter that a JSON value declares. -/
def constructJson (s : Setting) (gate : Gate) (name : String) (value : Json) :
    Traced (Except Failure Parameter) :=
  match Declaration.ofJson value with
  | .error fault => do
    Traced.whenEnabled gate .error fun _ =>
      (Event.error .malformedDeclaration fault.message).attach "parameter" name
    pure (.error (.malformed name fault))
  | .ok declaration => do
    pure ((← s.construct gate name declaration).mapError .refused)

end Setting

end NamedParams
