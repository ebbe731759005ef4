import NamedParams.Raw

/-! Numeric bounds of values. -/

namespace NamedParams

/-- A bound, kept as the kind of number that was declared. -/
inductive Bound where
  | integer (value : Int64)
  | float (value : Float)

namespace Bound

/-- The number as a float. -/
def toFloat : Bound → Float
  | .integer n => n.toFloat
  | .float x => x

/-- The number as a decoded value. -/
def toRaw : Bound → Raw
  | .integer n => .integer n
  | .float x => .float x

/-- The number for people. -/
def text : Bound → String
  | .integer n => toString n.toInt
  | .float x => Decimal.Layout.plain.text x

/-- An integer and a float differ, even where they are the same number. -/
def beq : Bound → Bound → Bool
  | .integer m, .integer n => m == n
  | .float x, .float y => x == y
  | _, _ => false

instance : BEq Bound := ⟨beq⟩

end Bound

end NamedParams
