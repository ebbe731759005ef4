import NamedParams.Json.Basic
import NamedParams.Json.Cursor

/-! Numerals: 64-bit integers, and floats scaled by powers of ten in binary64 arithmetic. -/

namespace NamedParams.Json

/-- Digits read into a number of limited size. -/
structure DigitRun where
  value : Nat
  count : Nat
  after : Cursor
  /-- A further digit would exceed the limit; it is still unread. -/
  full : Bool

/-- Reads digits for as long as the number stays within the limit. -/
def digitRun (limit : Nat) : List Char → Nat → Nat → Nat → DigitRun
  | [], offset, value, count => ⟨value, count, ⟨[], offset⟩, false⟩
  | c :: rest, offset, value, count =>
    if c.isDigit then
      let next := value * 10 + (c.toNat - 48)
      if next ≤ limit then digitRun limit rest (offset + 1) next (count + 1)
      else ⟨value, count, ⟨c :: rest, offset⟩, true⟩
    else ⟨value, count, ⟨c :: rest, offset⟩, false⟩

/-- Reads digits after the given ones. -/
def Cursor.digits (c : Cursor) (limit value : Nat) : DigitRun :=
  digitRun limit c.rest c.offset value 0

/-- Passes over all digits and counts them. -/
def Cursor.skipDigits (c : Cursor) : Nat × Cursor :=
  let run := c.rest.takeWhile Char.isDigit
  (run.length, ⟨c.rest.drop run.length, c.offset + run.length⟩)

/-- The largest significand that is kept exactly. -/
def significandLimit : Nat := 0xFFFFFFFFFFFFFFFF

/-- The largest exponent that is kept exactly. -/
def exponentLimit : Nat := 0x7FFFFFFF

/-- A power of ten, rounded to the nearest binary64 number. -/
def powerOfTen (exponent : Nat) : Float := Float.ofScientific 1 false exponent

/-- A float times a power of ten; beyond the largest power it takes several roundings. -/
def scaleByTen : Nat → Float → Int → Option Float
  | 0, x, _ => some x
  | steps + 1, x, exponent =>
    if exponent.natAbs ≤ 308 then
      if 0 ≤ exponent then
        let scaled := x * powerOfTen exponent.natAbs
        if scaled.isInf then none else some scaled
      else some (x / powerOfTen exponent.natAbs)
    else if x == 0.0 then some x
    else if 0 ≤ exponent then none
    -- Four divisions take every 64-bit significand to zero.
    else scaleByTen steps (x / powerOfTen 308) (exponent + 308)

/-- A finite float as a number. -/
def Number.ofFloat? (x : Float) : Option Number :=
  if finite : x.isFinite = true then some (.float x finite) else none

/-- The float `significand * 10 ^ exponent` with a sign. -/
def scaledNumber (care : Care) (negative : Bool) (significand : Nat) (exponent : Int)
    (after : Cursor) : Except ReadError (Number × Cursor) :=
  let magnitude := scaleByTen 5 significand.toUInt64.toFloat exponent
  let signed := magnitude.map fun x => if negative then -x else x
  match signed.bind Number.ofFloat? with
  | some n => .ok (n, after)
  | none =>
    match care with
    | .decode => after.fail .numberOutOfRange
    | .skip => .ok (.integer 0 (by decide), after)

/-- Reads an exponent from its letter on. -/
def Cursor.exponent (c : Cursor) (care : Care) (negative : Bool) (significand : Nat)
    (base : Int) : Except ReadError (Number × Cursor) :=
  let marked := c.drop
  let (below, c) := match marked.rest with
    | '+' :: _ => (false, marked.drop)
    | '-' :: _ => (true, marked.drop)
    | _ => (false, marked)
  match c.rest with
  | [] => c.fail .endInValue
  | first :: _ =>
    if !first.isDigit then c.failAtNext .invalidNumber
    else
      let run := c.digits exponentLimit 0
      if run.full then
        -- An exponent of this size leaves only zero, or no number at all.
        if significand ≠ 0 && !below && care = .decode then
          run.after.failAtNext .numberOutOfRange
        else scaledNumber care negative 0 0 run.after.skipDigits.2
      else
        let shift : Int := if below then -run.value else run.value
        scaledNumber care negative significand (base + shift) run.after

/-- Reads an exponent if there is one, and scales the significand. -/
def Cursor.scaled (c : Cursor) (care : Care) (negative : Bool) (significand : Nat)
    (base : Int) : Except ReadError (Number × Cursor) :=
  match c.rest with
  | 'e' :: _ | 'E' :: _ => c.exponent care negative significand base
  | _ => scaledNumber care negative significand base c

/-- Reads a fraction from its point on. -/
def Cursor.fraction (c : Cursor) (care : Care) (negative : Bool) (significand : Nat)
    (base : Int) : Except ReadError (Number × Cursor) :=
  let run := c.drop.digits significandLimit significand
  if run.full then
    -- Digits that do not fit into the significand are dropped.
    run.after.skipDigits.2.scaled care negative run.value (base - run.count)
  else if run.count = 0 then
    match run.after.rest with
    | [] => run.after.fail .endInValue
    | _ => run.after.failAtNext .invalidNumber
  else run.after.scaled care negative run.value (base - run.count)

/-- The integer with the given sign and digits; a negative one may need a float. -/
def integerNumber (negative : Bool) (significand : Nat) : Option Number :=
  let value : Int := if negative then -significand else significand
  if inRange : -0x8000000000000000 ≤ value ∧ value < 0x10000000000000000 then
    -- A negative zero is no integer.
    if negative && significand = 0 then Number.ofFloat? (-0.0)
    else some (.integer value inRange)
  else Number.ofFloat? (-significand.toUInt64.toFloat)

/-- Reads what follows the integer part. -/
def Cursor.afterInteger (c : Cursor) (care : Care) (negative : Bool) (significand : Nat) :
    Except ReadError (Number × Cursor) :=
  match c.rest with
  | '.' :: _ => c.fraction care negative significand 0
  | 'e' :: _ | 'E' :: _ => c.exponent care negative significand 0
  | _ =>
    match integerNumber negative significand with
    | some n => .ok (n, c)
    | none => c.fail .numberOutOfRange

/-- Reads an integer part with more digits than the significand holds. -/
def Cursor.longInteger (c : Cursor) (care : Care) (negative : Bool) (significand : Nat) :
    Except ReadError (Number × Cursor) :=
  -- Every digit that is dropped counts as a factor of ten.
  let (dropped, after) := c.skipDigits
  match after.rest with
  | '.' :: _ => after.fraction care negative significand dropped
  | _ => after.scaled care negative significand dropped

/-- Reads a numeral after its sign. -/
def Cursor.numeral (c : Cursor) (care : Care) (negative : Bool) :
    Except ReadError (Number × Cursor) :=
  match c.rest with
  | [] => c.fail .endInValue
  | '0' :: rest =>
    match rest with
    | next :: _ =>
      if next.isDigit then c.drop.failAtNext .invalidNumber
      else c.drop.afterInteger care negative 0
    | [] => c.drop.afterInteger care negative 0
  | first :: _ =>
    if first.isDigit then
      let run := c.digits significandLimit 0
      if run.full then run.after.longInteger care negative run.value
      else run.after.afterInteger care negative run.value
    else c.failAtNext .invalidNumber

end NamedParams.Json
