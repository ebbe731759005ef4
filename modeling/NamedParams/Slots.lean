import NamedParams.Attribute
import NamedParams.Bound
import NamedParams.Mapping
import NamedParams.Pattern

/-! The checked attributes of a parameter of one type. -/

namespace NamedParams

/-- The most members of an enumeration that are accepted. -/
def maxChoices : Nat := 10000

/-- The kinds of values that an attribute can ask for. -/
inductive Expectation where
  | boolean
  | integer
  | number
  | string
  | array
  deriving DecidableEq

/-- The name of an expected kind in messages. -/
def Expectation.name : Expectation → String
  | .boolean => "boolean"
  | .integer => "integer"
  | .number => "number"
  | .string => "string"
  | .array => "array"

/-- Why a value cannot be the value of an attribute. -/
inductive ValueFault where
  | wrongKind (expected : Expectation) (found : Kind)
  | noChoices
  | choiceNotString (index : Nat) (found : Kind)
  | tooManyChoices (count : Nat)
  | badPattern (fault : PatternFault)
  deriving DecidableEq

namespace ValueFault

/--
The wording of a fault.

Of a pattern that does not compile it has the words of the engine only.
The engine displays the pattern too, drawn above its words, which is left out here.
-/
def message : ValueFault → String
  | .wrongKind expected found => s!"expected {expected.name}, found {found.name}"
  | .noChoices => "enum must list at least one value"
  | .choiceNotString index found =>
    s!"enum member at index {index} must be a string, found {found.name}"
  | .tooManyChoices count => s!"enum lists {count} values, maximum allowed is {maxChoices}"
  | .badPattern (.tooLong length) =>
    s!"pattern is {length} bytes long, maximum allowed is {maxPatternLength}"
  | .badPattern (.rejected cause) => s!"pattern does not compile: {cause.message}"

/-- Whether the value is a string that is no pattern. -/
def isPatternFault : ValueFault → Bool
  | .badPattern _ => true
  | _ => false

end ValueFault

namespace Raw

/-- A flag. -/
def asBoolean : Raw → Except ValueFault Bool
  | .boolean b => .ok b
  | other => .error (.wrongKind .boolean other.kind)

/-- A length; a float is none, even if it has no fraction. -/
def asInteger : Raw → Except ValueFault Int64
  | .integer n => .ok n
  | other => .error (.wrongKind .integer other.kind)

/-- A bound of either kind of number. -/
def asBound : Raw → Except ValueFault Bound
  | .integer n => .ok (.integer n)
  | .float x => .ok (.float x)
  | other => .error (.wrongKind .number other.kind)

/-- A text. -/
def asText : Raw → Except ValueFault String
  | .string s => .ok s
  | other => .error (.wrongKind .string other.kind)

/-- The members of an enumeration from an index on, up to the first that is no string. -/
def readChoices : Nat → List Raw → Except ValueFault (List String)
  | _, [] => .ok []
  | index, .string s :: rest =>
    match readChoices (index + 1) rest with
    | .ok choices => .ok (s :: choices)
    | .error fault => .error fault
  | index, other :: _ => .error (.choiceNotString index other.kind)

/-- An enumeration: at least one string, in the order given, repeated or not. -/
def asChoices : Raw → Except ValueFault (List String)
  | .array items =>
    if items.isEmpty then .error .noChoices
    else if maxChoices < items.length then .error (.tooManyChoices items.length)
    else readChoices 0 items
  | other => .error (.wrongKind .array other.kind)

/-- A string that compiles as a pattern. -/
def asPattern : Raw → Except ValueFault Pattern
  | .string source =>
    match Pattern.compile source with
    | .ok pattern => .ok pattern
    | .error fault => .error (.badPattern fault)
  | other => .error (.wrongKind .string other.kind)

end Raw

/-- One slot for each attribute; a slot is filled when the attribute was declared. -/
structure Slots where
  required : Option Bool
  repeated : Option Bool
  defaultValue : Option Raw
  example? : Option Raw
  displayName : Option String
  description : Option String
  minLength : Option Int64
  maxLength : Option Int64
  choices : Option (List String)
  pattern : Option Pattern
  minimum : Option Bound
  maximum : Option Bound
  deriving BEq

namespace Slots

/-- No slot is filled. -/
def empty : Slots :=
  { required := none
    repeated := none
    defaultValue := none
    example? := none
    displayName := none
    description := none
    minLength := none
    maxLength := none
    choices := none
    pattern := none
    minimum := none
    maximum := none }

/-- Checks a value for an attribute and fills the slot; a rejected value changes nothing. -/
def apply (slots : Slots) (a : Attribute) (value : Raw) : Except ValueFault Slots :=
  match a with
  | .required => value.asBoolean.map fun b => { slots with required := some b }
  | .repeated => value.asBoolean.map fun b => { slots with repeated := some b }
  | .defaultValue => .ok { slots with defaultValue := some value }
  | .example => .ok { slots with example? := some value }
  | .displayName => value.asText.map fun s => { slots with displayName := some s }
  | .description => value.asText.map fun s => { slots with description := some s }
  | .minLength => value.asInteger.map fun n => { slots with minLength := some n }
  | .maxLength => value.asInteger.map fun n => { slots with maxLength := some n }
  | .choices => value.asChoices.map fun list => { slots with choices := some list }
  | .pattern => value.asPattern.map fun p => { slots with pattern := some p }
  | .minimum => value.asBound.map fun b => { slots with minimum := some b }
  | .maximum => value.asBound.map fun b => { slots with maximum := some b }

/-- Whether the slot of an attribute is filled. -/
def isFilled (slots : Slots) : Attribute → Bool
  | .required => slots.required.isSome
  | .repeated => slots.repeated.isSome
  | .defaultValue => slots.defaultValue.isSome
  | .example => slots.example?.isSome
  | .displayName => slots.displayName.isSome
  | .description => slots.description.isSome
  | .minLength => slots.minLength.isSome
  | .maxLength => slots.maxLength.isSome
  | .choices => slots.choices.isSome
  | .pattern => slots.pattern.isSome
  | .minimum => slots.minimum.isSome
  | .maximum => slots.maximum.isSome

/-- The attributes whose slots are filled, in the order of declaration. -/
def filled (slots : Slots) : List Attribute := Attribute.all.filter slots.isFilled

/-- The decoded value that fills a slot again; a pattern is the one that was declared. -/
def raw? (slots : Slots) : Attribute → Option Raw
  | .required => slots.required.map .boolean
  | .repeated => slots.repeated.map .boolean
  | .defaultValue => slots.defaultValue
  | .example => slots.example?
  | .displayName => slots.displayName.map .string
  | .description => slots.description.map .string
  | .minLength => slots.minLength.map .integer
  | .maxLength => slots.maxLength.map .integer
  | .choices => slots.choices.map fun list => .array (list.map .string)
  | .pattern => slots.pattern.map fun p => .string p.source
  | .minimum => slots.minimum.map Bound.toRaw
  | .maximum => slots.maximum.map Bound.toRaw

/-- The values of the filled slots under the canonical keys. -/
def toMapping (slots : Slots) : Mapping :=
  Mapping.ofList (Attribute.all.filterMap fun a => (slots.raw? a).map fun value => (a.name, value))

end Slots

end NamedParams
