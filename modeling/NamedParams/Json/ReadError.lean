/-! Why a text is not JSON, and where. -/

namespace NamedParams.Json

/-- A fault in a text that should be JSON. -/
inductive ReadFault where
  | endInValue
  | endInString
  | endInList
  | endInObject
  | expectedWord
  | expectedValue
  | expectedColon
  | expectedListCommaOrEnd
  | expectedObjectCommaOrEnd
  | keyNotString
  | trailingComma
  | trailingCharacters
  | invalidNumber
  | numberOutOfRange
  | controlCharacter
  | invalidEscape
  | loneLeadingSurrogate
  | unexpectedEndOfEscape
  | tooDeep
  deriving DecidableEq

/-- The wording of a fault. -/
def ReadFault.message : ReadFault → String
  | .endInValue => "EOF while parsing a value"
  | .endInString => "EOF while parsing a string"
  | .endInList => "EOF while parsing a list"
  | .endInObject => "EOF while parsing an object"
  | .expectedWord => "expected ident"
  | .expectedValue => "expected value"
  | .expectedColon => "expected `:`"
  | .expectedListCommaOrEnd => "expected `,` or `]`"
  | .expectedObjectCommaOrEnd => "expected `,` or `\x7d`"
  | .keyNotString => "key must be a string"
  | .trailingComma => "trailing comma"
  | .trailingCharacters => "trailing characters"
  | .invalidNumber => "invalid number"
  | .numberOutOfRange => "number out of range"
  | .controlCharacter =>
    "control character (\\u0000-\\u001F) found while parsing a string"
  | .invalidEscape => "invalid escape"
  | .loneLeadingSurrogate => "lone leading surrogate in hex escape"
  | .unexpectedEndOfEscape => "unexpected end of hex escape"
  | .tooDeep => "recursion limit exceeded"

/-- A fault together with the number of bytes of the text that lie before it. -/
structure ReadError where
  fault : ReadFault
  offset : Nat
  deriving DecidableEq

/-- Lines ended and bytes since the last line end, within the first bytes of a text. -/
def lineAndColumn : List Char → Nat → Nat × Nat → Nat × Nat
  | [], remaining, (line, column) => (line, column + remaining)
  | c :: rest, remaining, (line, column) =>
    -- An offset may fall between the bytes of one character.
    if remaining < c.utf8Size then (line, column + remaining)
    else if c = '\n' then lineAndColumn rest (remaining - 1) (line + 1, 0)
    else lineAndColumn rest (remaining - c.utf8Size) (line, column + c.utf8Size)

/-- The fault with its line and column, both as bytes of the text that was read. -/
def ReadError.message (e : ReadError) (text : String) : String :=
  let (line, column) := lineAndColumn text.toList e.offset (1, 0)
  s!"{e.fault.message} at line {line} column {column}"

end NamedParams.Json
