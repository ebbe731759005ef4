import NamedParams.Decimal.Layout
import NamedParams.Json.Basic

/-! The text of JSON values, on one line or indented. -/

namespace NamedParams.Json

/-- The lower-case hexadecimal digit of a number below sixteen. -/
def hexDigit (n : Nat) : Char :=
  if n < 10 then Char.ofNat (48 + n) else Char.ofNat (87 + n)

/-- A character inside a quoted string; only quotes, backslashes and controls are escaped. -/
def escapeChar (c : Char) : List Char :=
  if c = '"' then ['\\', '"']
  else if c = '\\' then ['\\', '\\']
  else if c = '\x08' then ['\\', 'b']
  else if c = '\x0c' then ['\\', 'f']
  else if c = '\n' then ['\\', 'n']
  else if c = '\r' then ['\\', 'r']
  else if c = '\t' then ['\\', 't']
  else if c.toNat < 32 then
    ['\\', 'u', '0', '0', hexDigit (c.toNat / 16), hexDigit (c.toNat % 16)]
  else [c]

/-- A string in quotes. -/
def quote (s : String) : String :=
  String.ofList ('"' :: s.toList.flatMap escapeChar ++ ['"'])

/-- A number: the decimal digits of an integer, or the shortest digits of a float. -/
def Number.text : Number → String
  | .integer n _ => toString n
  | .float x _ => Decimal.Layout.json.text x

mutual

/-- The text of a value without any blanks. -/
def compact : Json → String
  | .null => "null"
  | .boolean true => "true"
  | .boolean false => "false"
  | .number n => n.text
  | .string s => quote s
  | .array items => "[" ++ ",".intercalate (compactItems items) ++ "]"
  | .object entries => "\x7b" ++ ",".intercalate (compactEntries entries) ++ "\x7d"

/-- The texts of the items of an array. -/
def compactItems : List Json → List String
  | [] => []
  | item :: rest => compact item :: compactItems rest

/-- The texts of the entries of an object. -/
def compactEntries : List (String × Json) → List String
  | [] => []
  | (key, value) :: rest => (quote key ++ ":" ++ compact value) :: compactEntries rest

end

/-- The start of a line, two blanks for each level around it. -/
def lineStart (level : Nat) : String := "\n" ++ String.ofList (List.replicate (2 * level) ' ')

/-- Lines between brackets, one level further in; no lines leave the brackets together. -/
def enclose (opening closing : String) (level : Nat) : List String → String
  | [] => opening ++ closing
  | lines =>
    let inner := lines.map (lineStart (level + 1) ++ ·)
    opening ++ ",".intercalate inner ++ lineStart level ++ closing

mutual

/-- The text of a value with one item or entry a line, inside the given number of brackets. -/
def indented (level : Nat) : Json → String
  | .array items => enclose "[" "]" level (indentedItems (level + 1) items)
  | .object entries => enclose "\x7b" "\x7d" level (indentedEntries (level + 1) entries)
  | other => compact other

/-- The indented texts of the items of an array. -/
def indentedItems (level : Nat) : List Json → List String
  | [] => []
  | item :: rest => indented level item :: indentedItems level rest

/-- The indented texts of the entries of an object. -/
def indentedEntries (level : Nat) : List (String × Json) → List String
  | [] => []
  | (key, value) :: rest =>
    (quote key ++ ": " ++ indented level value) :: indentedEntries level rest

end

end NamedParams.Json
