import NamedParams.Unicode.Query

/-! The written structure of a regular expression. -/

namespace NamedParams.Regex

/-- The flags that a group can switch. -/
inductive Flag where
  | caseInsensitive
  | multiLine
  | dotMatchesNewLine
  | swapGreed
  | unicode
  | crlf
  | ignoreSpace
  deriving DecidableEq

/-- The flag that a letter names. -/
def Flag.ofLetter? : Char → Option Flag
  | 'i' => some .caseInsensitive
  | 'm' => some .multiLine
  | 's' => some .dotMatchesNewLine
  | 'U' => some .swapGreed
  | 'u' => some .unicode
  | 'R' => some .crlf
  | 'x' => some .ignoreSpace
  | _ => none

/-- The flags that a group switches on and off. -/
structure FlagChange where
  on : List Flag
  off : List Flag
  deriving DecidableEq

/-- A group that switches nothing. -/
def FlagChange.none : FlagChange := ⟨[], []⟩

/-- The value of a flag after a change. -/
def FlagChange.apply (change : FlagChange) (flag : Flag) (before : Bool) : Bool :=
  if change.on.contains flag then true
  else if change.off.contains flag then false
  else before

/-- A condition on a place between characters. -/
inductive Assertion where
  /-- The start of the text, or of a line where the flags say so. -/
  | lineStart
  /-- The end of the text, or of a line where the flags say so. -/
  | lineEnd
  | textStart
  | textEnd
  | wordBoundary
  | notWordBoundary
  | wordStart
  | wordEnd
  | wordStartHalf
  | wordEndHalf
  deriving DecidableEq

/-- A character as it is written. -/
structure Literal where
  char : Char
  /-- It is written as two hexadecimal digits, which name a byte where Unicode is off. -/
  byteForm : Bool
  deriving DecidableEq

/-- Classes with a one-letter escape. -/
inductive Shorthand where
  | digit
  | space
  | word
  deriving DecidableEq

/-- The named classes of ASCII characters. -/
inductive PosixClass where
  | alnum
  | alpha
  | ascii
  | blank
  | cntrl
  | digit
  | graph
  | lower
  | print
  | punct
  | space
  | upper
  | word
  | xdigit
  deriving DecidableEq

/-- A single item of an expression. -/
inductive Atom where
  | literal (l : Literal)
  /-- Any character, line ends perhaps excepted. -/
  | any
  | assertion (a : Assertion)
  | property (query : Unicode.Query) (negated : Bool)
  | shorthand (s : Shorthand) (negated : Bool)
  deriving DecidableEq

/-- The operators between parts of a bracketed class. -/
inductive SetOp where
  | inter
  | diff
  | symmDiff
  deriving DecidableEq

/-- What stands inside the brackets of a class. -/
inductive ClassTree where
  | empty
  | literal (l : Literal)
  | range (first last : Literal)
  | posix (name : PosixClass) (negated : Bool)
  | property (query : Unicode.Query) (negated : Bool)
  | shorthand (s : Shorthand) (negated : Bool)
  | bracketed (negated : Bool) (body : ClassTree)
  | union (first rest : ClassTree)
  | combine (op : SetOp) (left right : ClassTree)
  deriving DecidableEq

/-- A regular expression as it is written. -/
inductive Tree where
  | empty
  | setFlags (change : FlagChange)
  | atom (a : Atom)
  | bracketed (negated : Bool) (body : ClassTree)
  | repetition (least : Nat) (most : Option Nat) (body : Tree)
  /-- A part in parentheses, perhaps capturing, under a change of flags. -/
  | group (captures : Bool) (change : FlagChange) (body : Tree)
  | concat (first rest : Tree)
  | alternation (first rest : Tree)
  deriving DecidableEq

/-- The union of the members of a class. -/
def ClassTree.ofMembers : List ClassTree → ClassTree
  | [] => .empty
  | [member] => member
  | member :: rest => .union member (ofMembers rest)

/-- Items that follow each other. -/
def Tree.ofItems : List Tree → Tree
  | [] => .empty
  | [item] => item
  | item :: rest => .concat item (ofItems rest)

/-- Alternatives of which one is taken. -/
def Tree.ofAlternatives : List Tree → Tree
  | [] => .empty
  | [alternative] => alternative
  | alternative :: rest => .alternation alternative (ofAlternatives rest)

/-- Whether the parts of a union go on. -/
def ClassTree.isUnion : ClassTree → Bool
  | .union _ _ => true
  | _ => false

/-- The number of brackets, operators and lists inside each other. -/
def ClassTree.nesting : ClassTree → Nat
  | .bracketed _ body => body.nesting + 1
  -- The rest of a list is on the level of the list, not inside it.
  | .union first rest =>
    max (first.nesting + 1) (if rest.isUnion then rest.nesting else rest.nesting + 1)
  | .combine _ left right => max left.nesting right.nesting + 1
  | _ => 0

/-- Whether a list of items goes on. -/
def Tree.isConcat : Tree → Bool
  | .concat _ _ => true
  | _ => false

/-- Whether a list of alternatives goes on. -/
def Tree.isAlternation : Tree → Bool
  | .alternation _ _ => true
  | _ => false

/-- The number of groups, classes, repetitions and lists inside each other. -/
def Tree.nesting : Tree → Nat
  | .empty | .setFlags _ | .atom _ => 0
  | .bracketed _ body => body.nesting + 1
  | .repetition _ _ body => body.nesting + 1
  | .group _ _ body => body.nesting + 1
  -- The rest of a list is on the level of the list, not inside it.
  | .concat first rest =>
    max (first.nesting + 1) (if rest.isConcat then rest.nesting else rest.nesting + 1)
  | .alternation first rest =>
    max (first.nesting + 1) (if rest.isAlternation then rest.nesting else rest.nesting + 1)

end NamedParams.Regex
