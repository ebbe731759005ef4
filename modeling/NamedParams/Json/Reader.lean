import NamedParams.Json.Numeral

/-! Reading JSON text, with the fault and its place when the text is not JSON. -/

namespace NamedParams.Json

/-- The nesting of arrays and objects that a text may not reach. -/
def depthLimit : Nat := 128

/-- Moves to the next item of a list, or past its end. -/
def Cursor.nextItem (c : Cursor) (first : Bool) : Except ReadError (Bool × Cursor) :=
  let c := c.skipSpace
  match c.rest with
  | [] => c.fail .endInList
  | ']' :: _ => .ok (false, c.drop)
  | ',' :: _ =>
    if first then .ok (true, c)
    else
      let c := c.drop.skipSpace
      match c.rest with
      | [] => c.fail .endInValue
      | ']' :: _ => c.failAtNext .trailingComma
      | _ => .ok (true, c)
  | _ => if first then .ok (true, c) else c.failAtNext .expectedListCommaOrEnd

/-- Moves behind the opening quote of the next key of an object, or past its end. -/
def Cursor.nextKey (c : Cursor) (first : Bool) : Except ReadError (Bool × Cursor) :=
  let c := c.skipSpace
  match c.rest with
  | [] => c.fail .endInObject
  | '\x7d' :: _ => .ok (false, c.drop)
  | '"' :: _ => if first then .ok (true, c.drop) else c.failAtNext .expectedObjectCommaOrEnd
  | ',' :: _ =>
    if first then c.failAtNext .keyNotString
    else
      let c := c.drop.skipSpace
      match c.rest with
      | [] => c.fail .endInValue
      | '"' :: _ => .ok (true, c.drop)
      | '\x7d' :: _ => c.failAtNext .trailingComma
      | _ => c.failAtNext .keyNotString
  | _ => if first then c.failAtNext .keyNotString else c.failAtNext .expectedObjectCommaOrEnd

/-- Moves past the colon behind a key. -/
def Cursor.colon (c : Cursor) : Except ReadError Cursor :=
  let c := c.skipSpace
  match c.rest with
  | [] => c.fail .endInObject
  | ':' :: _ => .ok c.drop
  | _ => c.failAtNext .expectedColon

mutual

/-- Reads a value that may contain fewer than `depth` levels; `fuel` bounds the steps. -/
def readValue (care : Care) : Nat → Nat → Cursor → Except ReadError (Json × Cursor)
  | 0, _, c => c.fail .endInValue
  | fuel + 1, depth, c =>
    let c := c.skipSpace
    match c.rest with
    | [] => c.fail .endInValue
    | 'n' :: _ => do let c ← c.drop.word ['u', 'l', 'l']; pure (.null, c)
    | 't' :: _ => do let c ← c.drop.word ['r', 'u', 'e']; pure (.boolean true, c)
    | 'f' :: _ => do let c ← c.drop.word ['a', 'l', 's', 'e']; pure (.boolean false, c)
    | '-' :: _ => do let (n, c) ← c.drop.numeral care true; pure (.number n, c)
    | '"' :: _ => do let (s, c) ← c.drop.string care; pure (.string s, c)
    | '[' :: _ =>
      if depth ≤ 1 then c.failAtNext .tooDeep
      else readItems care fuel (depth - 1) c.drop []
    | '\x7b' :: _ =>
      if depth ≤ 1 then c.failAtNext .tooDeep
      else readEntries care fuel (depth - 1) c.drop []
    | first :: _ =>
      if first.isDigit then do let (n, c) ← c.numeral care false; pure (.number n, c)
      else c.failAtNext .expectedValue

/-- Reads the items of an array, held in reverse. -/
def readItems (care : Care) : Nat → Nat → Cursor → List Json → Except ReadError (Json × Cursor)
  | 0, _, c, _ => c.fail .endInList
  | fuel + 1, depth, c, items =>
    match c.nextItem items.isEmpty with
    | .error e => .error e
    | .ok (false, c) => .ok (.array items.reverse, c)
    | .ok (true, c) =>
      match readValue care fuel depth c with
      | .error e => .error e
      | .ok (item, c) => readItems care fuel depth c (item :: items)

/-- Reads the entries of an object, held in reverse; of equal keys the last one stays. -/
def readEntries (care : Care) :
    Nat → Nat → Cursor → List (String × Json) → Except ReadError (Json × Cursor)
  | 0, _, c, _ => c.fail .endInObject
  | fuel + 1, depth, c, entries =>
    match c.nextKey entries.isEmpty with
    | .error e => .error e
    | .ok (false, c) => .ok (ofEntries entries.reverse, c)
    | .ok (true, c) =>
      match c.string care with
      | .error e => .error e
      | .ok (key, c) =>
        match c.colon with
        | .error e => .error e
        | .ok c =>
          match readValue care fuel depth c with
          | .error e => .error e
          | .ok (value, c) => readEntries care fuel depth c ((key, value) :: entries)

end

/-- Reads one value below the depth limit. -/
def Cursor.value (c : Cursor) (depth : Nat) : Except ReadError (Json × Cursor) :=
  readValue .decode (2 * c.rest.length + 2) depth c

/-- Passes over one value of any depth without decoding it. -/
def Cursor.skipValue (c : Cursor) : Except ReadError Cursor :=
  -- Every level takes a character, so the length of the text is no limit.
  (readValue .skip (2 * c.rest.length + 2) (c.rest.length + 2) c).map (·.2)

/-- Nothing but blanks may follow a whole text. -/
def Cursor.finish (c : Cursor) : Except ReadError Unit :=
  let c := c.skipSpace
  match c.rest with
  | [] => .ok ()
  | _ => c.failAtNext .trailingCharacters

/-- Reads a whole text as one value with a depth limit of its own. -/
def readWithin (depth : Nat) (text : String) : Except ReadError Json := do
  let (value, c) ← (Cursor.start text).value depth
  c.finish
  pure value

/-- Reads a whole text as one value. -/
def read (text : String) : Except ReadError Json := readWithin depthLimit text

end NamedParams.Json
