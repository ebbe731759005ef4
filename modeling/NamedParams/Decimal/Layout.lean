import NamedParams.Decimal.Shortest

/-! The written forms of a floating-point number. -/

namespace NamedParams.Decimal

/-- The decisions of a written form that the digits leave open. -/
structure Layout where
  /-- The least exponent of the leading digit that is written without an exponent part. -/
  positionalFrom : Int
  /-- The first larger exponent of the leading digit that needs an exponent part. -/
  positionalBelow : Int
  /-- A positive exponent carries a plus sign. -/
  plusSign : Bool
  tie : Tie

/-- Numbers inside JSON text. -/
def Layout.json : Layout := ⟨-5, 16, true, .even⟩

/-- Numbers inside messages for people. -/
def Layout.plain : Layout := ⟨-4, 16, false, .up⟩

/-- Digits around a point, with zeros where the digits do not reach. -/
def positional (digits : List Char) (leading : Int) : String :=
  if leading < 0 then
    "0." ++ String.ofList (List.replicate (-leading - 1).toNat '0' ++ digits)
  else
    -- The integer part takes one digit more than the exponent.
    let count := leading.toNat + 1
    let whole := digits.take count ++ List.replicate (count - digits.length) '0'
    let fraction := if digits.length ≤ count then ['0'] else digits.drop count
    String.ofList (whole ++ '.' :: fraction)

/-- One digit before the point and an exponent after the rest. -/
def exponential (digits : List Char) (leading : Int) (plusSign : Bool) : String :=
  let mantissa := match digits with
    | first :: second :: rest => first :: '.' :: second :: rest
    | short => short
  let sign := if plusSign && 0 ≤ leading then "+" else ""
  String.ofList mantissa ++ "e" ++ sign ++ toString leading

/-- The text of a positive decimal number. -/
def Layout.scientific (layout : Layout) (s : Scientific) : String :=
  let digits := Nat.toDigits 10 s.digits
  let leading := s.exponent + digits.length - 1
  if layout.positionalFrom ≤ leading && leading < layout.positionalBelow then
    positional digits leading
  else
    exponential digits leading layout.plusSign

/-- The text of a number; the values that are not numbers have names of their own. -/
def Layout.text (layout : Layout) (x : Float) : String :=
  let bits := x.toBits
  let sign := if bits.toNat / 0x8000000000000000 = 1 then "-" else ""
  if x.isNaN then "NaN"
  else if x.isInf then sign ++ "inf"
  else if bits.toNat % 0x8000000000000000 = 0 then sign ++ "0.0"
  else sign ++ layout.scientific ((Binary.ofBits bits).shortest layout.tie)

end NamedParams.Decimal
