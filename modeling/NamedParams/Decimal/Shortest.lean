/-! The fewest decimal digits that read back as a given binary64 number. -/

namespace NamedParams.Decimal

/-- Which of two equally near candidates is taken. -/
inductive Tie where
  /-- The candidate with an even last digit. -/
  | even
  /-- The candidate of larger magnitude. -/
  | up
  deriving DecidableEq

/-- The positive number `digits * 10 ^ exponent`. -/
structure Scientific where
  digits : Nat
  exponent : Int
  deriving DecidableEq

/-- The positive number `significand * 2 ^ exponent`, as binary64 stores it. -/
structure Binary where
  significand : Nat
  exponent : Int
  /-- The next number below is only half as far away as the next one above. -/
  narrowBelow : Bool
  deriving DecidableEq

/-- The magnitude held by the bits of a finite number, whatever its sign. -/
def Binary.ofBits (bits : UInt64) : Binary :=
  let fraction : Nat := bits.toNat % 0x10000000000000
  let field : Nat := bits.toNat / 0x10000000000000 % 0x800
  -- A zero exponent field marks the numbers without an implicit leading bit.
  if field = 0 then ⟨fraction, -1074, false⟩
  else ⟨fraction + 0x10000000000000, (field : Int) - 1075, fraction == 0 && 1 < field⟩

/-- The power of two or ten when the exponent is positive, and one otherwise. -/
private def scaleUp (base : Nat) (exponent : Int) : Nat := base.pow exponent.toNat

/-- A number and the ends of the interval that rounds to it, over one denominator. -/
structure Interval where
  low : Nat
  middle : Nat
  high : Nat
  denominator : Nat
  /-- The ends themselves round to the number. -/
  closed : Bool

/-- The rounding interval of a number, in units of `10 ^ grid`. -/
def Binary.interval (b : Binary) (grid : Int) : Interval :=
  -- Quarters of the last place keep both half distances whole.
  let scale := scaleUp 2 (b.exponent - 2) * scaleUp 10 (-grid)
  { low := (4 * b.significand - if b.narrowBelow then 1 else 2) * scale
    middle := 4 * b.significand * scale
    high := (4 * b.significand + 2) * scale
    denominator := scaleUp 2 (2 - b.exponent) * scaleUp 10 grid
    closed := b.significand % 2 == 0 }

/-- Whether a whole number of units lies in the interval. -/
def Interval.contains (i : Interval) (units : Nat) : Bool :=
  let point := units * i.denominator
  if i.closed then i.low ≤ point && point ≤ i.high else i.low < point && point < i.high

/-- The nearest whole number of units in the interval, if there is one. -/
def Interval.nearest? (i : Interval) (tie : Tie) : Option Nat :=
  let below := i.middle / i.denominator
  match i.contains below, i.contains (below + 1) with
  | false, false => none
  | true, false => some below
  | false, true => some (below + 1)
  | true, true =>
    -- Compare the doubled distance to the lower neighbour with one unit.
    match compare (2 * (i.middle - below * i.denominator)) i.denominator with
    | .lt => some below
    | .gt => some (below + 1)
    | .eq =>
      match tie with
      | .up => some (below + 1)
      | .even => some (below + below % 2)

/-- The exponent of the leading decimal digit. -/
def Binary.leadingExponent (b : Binary) : Int :=
  -- The logarithm of two turns the binary magnitude into an estimate within one of the answer.
  let estimate := ((Nat.log2 b.significand : Int) + b.exponent) * 30103 / 100000
  let reached (e : Int) : Bool :=
    scaleUp 10 e * scaleUp 2 (-b.exponent) ≤
      b.significand * scaleUp 2 b.exponent * scaleUp 10 (-e)
  if reached (estimate + 1) then estimate + 1
  else if reached estimate then estimate
  else estimate - 1

/-- Tries ever finer grids until one has a point in the interval. -/
private def searchGrid (b : Binary) (tie : Tie) : Nat → Int → Scientific
  | 0, grid => ⟨b.significand * scaleUp 2 b.exponent, grid⟩
  | steps + 1, grid =>
    match (b.interval grid).nearest? tie with
    | some units => ⟨units, grid⟩
    | none => searchGrid b tie steps (grid - 1)

/-- Drops the zeros at the end of the digits. -/
private def trimZeros : Nat → Scientific → Scientific
  | 0, s => s
  | steps + 1, s =>
    if s.digits % 10 = 0 then trimZeros steps ⟨s.digits / 10, s.exponent + 1⟩ else s

/-- The shortest decimal that rounds to a positive number, nearest to it among those. -/
def Binary.shortest (b : Binary) (tie : Tie) : Scientific :=
  -- Seventeen digits identify every binary64 number.
  trimZeros 20 (searchGrid b tie 17 b.leadingExponent)

end NamedParams.Decimal
