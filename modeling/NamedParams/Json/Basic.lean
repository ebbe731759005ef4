import NamedParams.Entries

/-! JSON values. -/

namespace NamedParams

/-- A JSON number: an integer of at most 64 bits, signed or unsigned, or a finite binary64 number. -/
inductive Json.Number where
  | integer (value : Int) (inRange : -0x8000000000000000 ≤ value ∧ value < 0x10000000000000000)
  | float (value : Float) (finite : value.isFinite = true)

/-- Integers and floats are told apart, and the two zeros are not. -/
def Json.Number.beq : Json.Number → Json.Number → Bool
  | .integer m _, .integer n _ => m == n
  | .float x _, .float y _ => x == y
  | _, _ => false

instance : BEq Json.Number := ⟨Json.Number.beq⟩

/-- A JSON value; the entries of an object stand in increasing order of their keys. -/
inductive Json where
  | null
  | boolean (value : Bool)
  | number (value : Json.Number)
  | string (value : String)
  | array (items : List Json)
  | object (entries : List (String × Json))

namespace Json

mutual

/-- Equality of values of one kind. -/
def beq : Json → Json → Bool
  | .null, .null => true
  | .boolean a, .boolean b => a == b
  | .number a, .number b => a == b
  | .string a, .string b => a == b
  | .array a, .array b => beqItems a b
  | .object a, .object b => beqEntries a b
  | _, _ => false

/-- Equality of arrays, item by item. -/
def beqItems : List Json → List Json → Bool
  | [], [] => true
  | a :: rest, b :: others => beq a b && beqItems rest others
  | _, _ => false

/-- Equality of objects, entry by entry. -/
def beqEntries : List (String × Json) → List (String × Json) → Bool
  | [], [] => true
  | (key, a) :: rest, (other, b) :: others => key == other && beq a b && beqEntries rest others
  | _, _ => false

end

instance : BEq Json := ⟨beq⟩

/-- The object that binds the given keys. -/
def ofEntries (entries : List (String × Json)) : Json := .object (Entries.sort entries)

/-- The integer as a number; one that needs more than 64 bits becomes null. -/
def ofInt (n : Int) : Json :=
  if inRange : -0x8000000000000000 ≤ n ∧ n < 0x10000000000000000 then .number (.integer n inRange)
  else .null

/-- The count as a number. -/
def ofNat (n : Nat) : Json := ofInt n

/-- The binding of a key in an object. -/
def get? (key : String) : Json → Option Json
  | .object entries => entries.lookup key
  | _ => none

end Json

end NamedParams
