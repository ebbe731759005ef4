import NamedParams.CharSet
import NamedParams.Unicode.Query

/-! Regular expressions as what they match. -/

namespace NamedParams.Regex

/-- A condition on the characters before and behind a place. -/
inductive Look where
  | textStart
  | textEnd
  | lineStart
  | lineEnd
  /-- Line ends may be a carriage return, a line feed or both together. -/
  | anyLineStart
  | anyLineEnd
  | wordBoundary (unicode : Bool)
  | notWordBoundary (unicode : Bool)
  | wordStart (unicode : Bool)
  | wordEnd (unicode : Bool)
  | wordStartHalf (unicode : Bool)
  | wordEndHalf (unicode : Bool)
  deriving DecidableEq

/-- An expression whose flags, classes and escapes are resolved. -/
inductive Expr where
  | empty
  /-- One character of a set. -/
  | set (members : CharSet)
  | look (condition : Look)
  | concat (first second : Expr)
  | either (left right : Expr)
  | repetition (least : Nat) (most : Option Nat) (body : Expr)
  /-- A capturing group; it matches what its body matches. -/
  | capture (body : Expr)
  deriving DecidableEq

/-- Word characters among the ASCII characters. -/
def asciiWord (c : Char) : Bool := c.isAlphanum || c == '_'

/-- Whether a neighbour is there and is a word character. -/
def isWordAt (unicode : Bool) : Option Char → Bool
  | none => false
  | some c => if c.toNat < 128 then asciiWord c else unicode && Unicode.wordCharacter.contains c

/-- Whether a condition holds between two neighbours; none is there at the ends of the text. -/
def Look.holds (look : Look) (before behind : Option Char) : Bool :=
  match look with
  | .textStart => before.isNone
  | .textEnd => behind.isNone
  | .lineStart => before.isNone || before = some '\n'
  | .lineEnd => behind.isNone || behind = some '\n'
  | .anyLineStart =>
    before.isNone || before = some '\n' || (before = some '\r' && behind ≠ some '\n')
  | .anyLineEnd =>
    behind.isNone || behind = some '\r' || (behind = some '\n' && before ≠ some '\r')
  | .wordBoundary unicode => isWordAt unicode before != isWordAt unicode behind
  | .notWordBoundary unicode => isWordAt unicode before == isWordAt unicode behind
  | .wordStart unicode => !isWordAt unicode before && isWordAt unicode behind
  | .wordEnd unicode => isWordAt unicode before && !isWordAt unicode behind
  | .wordStartHalf unicode => !isWordAt unicode before
  | .wordEndHalf unicode => !isWordAt unicode behind

/-- Whether an expression matches no text but the empty one. -/
def Expr.isEmptyWidth : Expr → Bool
  | .empty | .look _ => true
  | .set _ => false
  | .concat first second => first.isEmptyWidth && second.isEmptyWidth
  | .either left right => left.isEmptyWidth && right.isEmptyWidth
  | .repetition _ most body => body.isEmptyWidth || most = some 0
  | .capture body => body.isEmptyWidth

/-- One expression behind another; one that is empty leaves no trace. -/
def Expr.append : Expr → Expr → Expr
  | .empty, second => second
  | first, .empty => first
  | first, second => .concat first second

/-- Repeats an expression; repeating an empty text more than once adds nothing. -/
def Expr.repeated (least : Nat) (most : Option Nat) (body : Expr) : Expr :=
  if body.isEmptyWidth then .repetition (min least 1) (some (min (most.getD 1) 1)) body
  else .repetition least most body

end NamedParams.Regex
