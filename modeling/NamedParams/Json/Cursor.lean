import NamedParams.Json.ReadError

/-! A place in a text being read, and the small steps taken from it. -/

namespace NamedParams.Json

/-- The characters still to be read and the number of bytes already read. -/
structure Cursor where
  rest : List Char
  offset : Nat

/-- The start of a text. -/
def Cursor.start (text : String) : Cursor := ⟨text.toList, 0⟩

/-- Reports a fault at the bytes read so far. -/
def Cursor.fail (c : Cursor) (fault : ReadFault) : Except ReadError α :=
  .error ⟨fault, c.offset⟩

/-- Reports a fault in the next byte; at the end of the text there is none to count. -/
def Cursor.failAtNext (c : Cursor) (fault : ReadFault) : Except ReadError α :=
  .error ⟨fault, if c.rest.isEmpty then c.offset else c.offset + 1⟩

/-- The place after one more character of one byte. -/
def Cursor.drop (c : Cursor) : Cursor := ⟨c.rest.tail, c.offset + 1⟩

/-- Blanks between tokens. -/
def isSpace (c : Char) : Bool := c == ' ' || c == '\n' || c == '\t' || c == '\r'

/-- The place of the next token. -/
def Cursor.skipSpace (c : Cursor) : Cursor :=
  let blanks := c.rest.takeWhile isSpace
  ⟨c.rest.drop blanks.length, c.offset + blanks.length⟩

/-- Reads the remaining letters of a word whose first letter is known. -/
def Cursor.word (c : Cursor) : List Char → Except ReadError Cursor
  | [] => .ok c
  | expected :: more =>
    match c.rest with
    | [] => c.fail .endInValue
    | found :: _ => if found = expected then c.drop.word more else c.failAtNext .expectedWord

/-- The value of a hexadecimal digit of either case. -/
def hexValue? (c : Char) : Option Nat :=
  if '0' ≤ c && c ≤ '9' then some (c.toNat - 48)
  else if 'a' ≤ c && c ≤ 'f' then some (c.toNat - 87)
  else if 'A' ≤ c && c ≤ 'F' then some (c.toNat - 55)
  else none

/-- Reads four hexadecimal digits. -/
def Cursor.hexEscape (c : Cursor) : Except ReadError (Nat × Cursor) :=
  match c.rest with
  | w :: x :: y :: z :: rest =>
    match hexValue? w, hexValue? x, hexValue? y, hexValue? z with
    | some w, some x, some y, some z =>
      .ok (((w * 16 + x) * 16 + y) * 16 + z, ⟨rest, c.offset + 4⟩)
    | _, _, _, _ => .error ⟨.invalidEscape, c.offset + 4⟩
  | few =>
    -- Three characters may still be four bytes.
    let bytes := few.foldl (fun bytes c => bytes + c.utf8Size) 0
    if 4 ≤ bytes then .error ⟨.invalidEscape, c.offset + 4⟩
    else .error ⟨.endInString, c.offset + bytes⟩

/-- Whether strings are decoded, with all their escapes in pairs, or only passed over. -/
inductive Care where
  | decode
  | skip
  deriving DecidableEq

/-- Reads the second escape of a character outside the basic plane. -/
def Cursor.trailingSurrogate (c : Cursor) (leading : Nat) : Except ReadError (Char × Cursor) :=
  match c.rest with
  | [] => c.fail .endInString
  | '\\' :: rest =>
    match rest with
    | [] => c.drop.fail .endInString
    | 'u' :: _ => do
      let (trailing, after) ← c.drop.drop.hexEscape
      if 0xDC00 ≤ trailing && trailing ≤ 0xDFFF then
        .ok (Char.ofNat ((leading - 0xD800) * 0x400 + (trailing - 0xDC00) + 0x10000), after)
      else
        after.fail .loneLeadingSurrogate
    | _ => c.drop.failAtNext .unexpectedEndOfEscape
  | _ => c.failAtNext .unexpectedEndOfEscape

/-- Reads what follows the letter of a hexadecimal escape. -/
def Cursor.unicodeEscape (c : Cursor) (care : Care) : Except ReadError (Char × Cursor) := do
  let (unit, after) ← c.hexEscape
  if unit < 0xD800 || 0xDFFF < unit then
    .ok (Char.ofNat unit, after)
  else if care = .skip then
    .ok (Char.ofNat 0xFFFD, after)
  else if 0xDC00 ≤ unit then
    after.fail .loneLeadingSurrogate
  else
    after.trailingSurrogate unit

/-- Reads what follows a backslash. -/
def Cursor.escape (c : Cursor) (care : Care) : Except ReadError (Char × Cursor) :=
  match c.rest with
  | [] => c.fail .endInString
  | '"' :: _ => .ok ('"', c.drop)
  | '\\' :: _ => .ok ('\\', c.drop)
  | '/' :: _ => .ok ('/', c.drop)
  | 'b' :: _ => .ok ('\x08', c.drop)
  | 'f' :: _ => .ok ('\x0c', c.drop)
  | 'n' :: _ => .ok ('\n', c.drop)
  | 'r' :: _ => .ok ('\r', c.drop)
  | 't' :: _ => .ok ('\t', c.drop)
  | 'u' :: _ => c.drop.unicodeEscape care
  | _ => c.failAtNext .invalidEscape

/-- Reads the characters of a string in reverse; every step takes at least one. -/
def Cursor.stringTail (care : Care) : Nat → Cursor → List Char → Except ReadError (String × Cursor)
  | 0, c, _ => c.fail .endInString
  | steps + 1, c, taken =>
    match c.rest with
    | [] => c.fail .endInString
    | '"' :: _ => .ok (String.ofList taken.reverse, c.drop)
    | '\\' :: _ =>
      match c.drop.escape care with
      | .error e => .error e
      | .ok (decoded, after) => stringTail care steps after (decoded :: taken)
    | plain :: rest =>
      if plain.toNat < 32 then c.failAtNext .controlCharacter
      else stringTail care steps ⟨rest, c.offset + plain.utf8Size⟩ (plain :: taken)

/-- Reads a string after its opening quote. -/
def Cursor.string (c : Cursor) (care : Care) : Except ReadError (String × Cursor) :=
  stringTail care (c.rest.length + 1) c []

end NamedParams.Json
