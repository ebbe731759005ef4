import NamedParams.Json.Writer

/-! Decoded values that nothing has checked yet. -/

namespace NamedParams

/-- A decoded value; integers and floats stay distinct, whatever their size. -/
inductive Raw where
  | null
  | boolean (value : Bool)
  | integer (value : Int64)
  | float (value : Float)
  | string (value : String)
  | array (items : List Raw)
  | mapping (entries : List (String × Raw))

/-- The kinds of decoded values. -/
inductive Kind where
  | null
  | boolean
  | integer
  | float
  | string
  | array
  | mapping
  deriving DecidableEq

/-- The name of a kind in messages. -/
def Kind.name : Kind → String
  | .null => "null"
  | .boolean => "boolean"
  | .integer => "integer"
  | .float => "float"
  | .string => "string"
  | .array => "array"
  | .mapping => "mapping"

namespace Raw

/-- The kind of a value. -/
def kind : Raw → Kind
  | .null => .null
  | .boolean _ => .boolean
  | .integer _ => .integer
  | .float _ => .float
  | .string _ => .string
  | .array _ => .array
  | .mapping _ => .mapping

/-- The text of a string value. -/
def string? : Raw → Option String
  | .string s => some s
  | _ => none

/-- A JSON number as a value; an integer beyond the signed range becomes a float. -/
def ofNumber : Json.Number → Raw
  | .integer n _ => if n < 0x8000000000000000 then .integer (Int64.ofInt n) else .float n.toNat.toUInt64.toFloat
  | .float x _ => .float x

/-- A float as a JSON value; what is not finite becomes null. -/
def floatToJson (x : Float) : Json :=
  if finite : x.isFinite = true then .number (.float x finite) else .null

mutual

/-- The value that a JSON value stands for. -/
def ofJson : Json → Raw
  | .null => .null
  | .boolean b => .boolean b
  | .number n => ofNumber n
  | .string s => .string s
  | .array items => .array (ofJsonItems items)
  | .object entries => .mapping (ofJsonEntries entries)

/-- The values of the items of an array. -/
def ofJsonItems : List Json → List Raw
  | [] => []
  | item :: rest => ofJson item :: ofJsonItems rest

/-- The values of the entries of an object, under the same keys. -/
def ofJsonEntries : List (String × Json) → List (String × Raw)
  | [] => []
  | (key, value) :: rest => (key, ofJson value) :: ofJsonEntries rest

end

mutual

/-- The JSON value that stands for a value. -/
def toJson : Raw → Json
  | .null => .null
  | .boolean b => .boolean b
  | .integer n => .number (.integer n.toInt ⟨n.le_toInt, Int.lt_trans n.toInt_lt (by decide)⟩)
  | .float x => floatToJson x
  | .string s => .string s
  | .array items => .array (toJsonItems items)
  | .mapping entries => .object (toJsonEntries entries)

/-- The JSON values of the items of an array. -/
def toJsonItems : List Raw → List Json
  | [] => []
  | item :: rest => toJson item :: toJsonItems rest

/-- The JSON values of the entries of a mapping, under the same keys. -/
def toJsonEntries : List (String × Raw) → List (String × Json)
  | [] => []
  | (key, value) :: rest => (key, toJson value) :: toJsonEntries rest

end

/-- The JSON text of a value. -/
def text (value : Raw) : String := value.toJson.compact

mutual

/-- Equality of values of one kind; floats compare as numbers, so NaN differs from itself. -/
def beq : Raw → Raw → Bool
  | .null, .null => true
  | .boolean a, .boolean b => a == b
  | .integer a, .integer b => a == b
  | .float a, .float b => a == b
  | .string a, .string b => a == b
  | .array a, .array b => beqItems a b
  | .mapping a, .mapping b => beqEntries a b
  | _, _ => false

/-- Equality of arrays, item by item. -/
def beqItems : List Raw → List Raw → Bool
  | [], [] => true
  | a :: rest, b :: others => beq a b && beqItems rest others
  | _, _ => false

/-- Equality of mappings, entry by entry. -/
def beqEntries : List (String × Raw) → List (String × Raw) → Bool
  | [], [] => true
  | (key, a) :: rest, (other, b) :: others => key == other && beq a b && beqEntries rest others
  | _, _ => false

end

instance : BEq Raw := ⟨beq⟩

end Raw

end NamedParams
