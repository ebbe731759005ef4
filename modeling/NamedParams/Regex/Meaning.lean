import NamedParams.Regex.Expr
import NamedParams.Regex.Fault
import NamedParams.Regex.Posix
import NamedParams.Unicode.Folding

/-! The meaning of a written expression, under the flags in force at each of its parts. -/

namespace NamedParams.Regex

/-- The flags that decide what a part of an expression matches. -/
structure Flags where
  caseInsensitive : Bool
  multiLine : Bool
  dotMatchesNewLine : Bool
  unicode : Bool
  crlf : Bool
  deriving DecidableEq

/-- The flags at the start of an expression. -/
def Flags.initial : Flags := ⟨false, false, false, true, false⟩

/-- The flags after a change. -/
def Flags.change (flags : Flags) (change : FlagChange) : Flags :=
  { caseInsensitive := change.apply .caseInsensitive flags.caseInsensitive
    multiLine := change.apply .multiLine flags.multiLine
    dotMatchesNewLine := change.apply .dotMatchesNewLine flags.dotMatchesNewLine
    unicode := change.apply .unicode flags.unicode
    crlf := change.apply .crlf flags.crlf }

namespace Flags

/-- The set that also has the other cases of its members, where case does not count. -/
def fold (flags : Flags) (s : CharSet) : CharSet :=
  if !flags.caseInsensitive then s
  else if flags.unicode then s.foldCase
  else s.foldAsciiCase

/-- Refuses members beyond ASCII where Unicode is off, as they are no single bytes. -/
def restrict (flags : Flags) (s : CharSet) : Except Fault CharSet :=
  if flags.unicode || s.isAscii then .ok s else .error .invalidUtf8

/-- The set with case ignored first, and then negated. -/
def foldAndNegate (flags : Flags) (negated : Bool) (s : CharSet) : Except Fault CharSet :=
  let folded := flags.fold s
  flags.restrict (if negated then folded.complement else folded)

/-- The set of a one-letter class, which contains the other cases of its members already. -/
def shorthand (flags : Flags) (s : Shorthand) (negated : Bool) : Except Fault CharSet :=
  let set := match s, flags.unicode with
    | .digit, true => Unicode.decimalDigit
    | .space, true => Unicode.whiteSpace
    | .word, true => Unicode.wordCharacter
    | .digit, false => PosixClass.digit.members
    | .space, false => PosixClass.space.members
    | .word, false => PosixClass.word.members
  flags.restrict (if negated then set.complement else set)

/-- The set of a Unicode property. -/
def property (flags : Flags) (query : Unicode.Query) (negated : Bool) : Except Fault CharSet :=
  if !flags.unicode then .error .unicodeNotAllowed
  else
    match query.answer with
    | .ok set => flags.foldAndNegate negated set
    | .error .unknownProperty => .error .propertyUnknown
    | .error .unknownValue => .error .propertyValueUnknown

/-- Refuses a byte beyond ASCII where Unicode is off. -/
def checkByte (flags : Flags) (l : Literal) : Except Fault Unit :=
  if !flags.unicode && l.byteForm && 128 ≤ l.char.toNat then .error .invalidUtf8 else .ok ()

/-- The set of one written character. -/
def literal (flags : Flags) (l : Literal) : Except Fault CharSet := do
  flags.checkByte l
  -- Where Unicode is off, only ASCII letters have another case.
  .ok (flags.fold (.singleton l.char))

/-- A written character as a member of a class. -/
def memberChar (flags : Flags) (l : Literal) : Except Fault Char := do
  flags.checkByte l
  if flags.unicode || l.char.toNat < 128 then .ok l.char else .error .unicodeNotAllowed

/-- The set of any character. -/
def dot (flags : Flags) : Except Fault CharSet :=
  if !flags.unicode then .error .invalidUtf8
  else if flags.dotMatchesNewLine then .ok CharSet.empty.complement
  else if flags.crlf then .ok (CharSet.ofHex "A D").complement
  else .ok (CharSet.ofHex "A").complement

/-- The condition that an assertion states. -/
def look (flags : Flags) : Assertion → Look
  | .lineStart =>
    if !flags.multiLine then .textStart else if flags.crlf then .anyLineStart else .lineStart
  | .lineEnd =>
    if !flags.multiLine then .textEnd else if flags.crlf then .anyLineEnd else .lineEnd
  | .textStart => .textStart
  | .textEnd => .textEnd
  | .wordBoundary => .wordBoundary flags.unicode
  | .notWordBoundary => .notWordBoundary flags.unicode
  | .wordStart => .wordStart flags.unicode
  | .wordEnd => .wordEnd flags.unicode
  | .wordStartHalf => .wordStartHalf flags.unicode
  | .wordEndHalf => .wordEndHalf flags.unicode

/-- The set that an operator makes of two sets. -/
def combine (flags : Flags) (op : SetOp) (left right : CharSet) : CharSet :=
  let left := flags.fold left
  let right := flags.fold right
  match op with
  | .inter => left.inter right
  | .diff => left.sdiff right
  | .symmDiff => left.symmDiff right

end Flags

/-- The set of what stands inside the brackets of a class. -/
def ClassTree.members (flags : Flags) : ClassTree → Except Fault CharSet
  | .empty => .ok .empty
  | .literal l => (flags.memberChar l).map .singleton
  | .range first last => do
    let first ← flags.memberChar first
    let last ← flags.memberChar last
    .ok (.range first last)
  | .posix name negated => flags.foldAndNegate negated name.members
  | .property query negated => flags.property query negated
  | .shorthand s negated => flags.shorthand s negated
  | .bracketed negated body => do flags.foldAndNegate negated (← body.members flags)
  | .union first rest => do
    let first ← first.members flags
    let rest ← rest.members flags
    .ok (first.union rest)
  | .combine op left right => do
    let left ← left.members flags
    let right ← right.members flags
    .ok (flags.combine op left right)

/-- What a single item matches. -/
def Atom.expr (flags : Flags) : Atom → Except Fault Expr
  | .literal l => (flags.literal l).map .set
  | .any => flags.dot.map .set
  | .assertion a => .ok (.look (flags.look a))
  | .property query negated => (flags.property query negated).map .set
  | .shorthand s negated => (flags.shorthand s negated).map .set

/-- What an expression matches, and the flags in force behind it. -/
def Tree.expr (flags : Flags) : Tree → Except Fault (Expr × Flags)
  | .empty => .ok (.empty, flags)
  | .setFlags change => .ok (.empty, flags.change change)
  | .atom a => (a.expr flags).map (·, flags)
  | .bracketed negated body => do
    let set ← flags.foldAndNegate negated (← body.members flags)
    .ok (.set set, flags)
  | .repetition least most body => do
    let (body, after) ← body.expr flags
    .ok (Expr.repeated least most body, after)
  | .group captures change body => do
    -- A change of flags ends with the group that contains it.
    let (body, _) ← body.expr (flags.change change)
    .ok (if captures then .capture body else body, flags)
  | .concat first rest => do
    let (first, after) ← first.expr flags
    let (rest, after) ← rest.expr after
    .ok (first.append rest, after)
  | .alternation first rest => do
    let (first, after) ← first.expr flags
    let (rest, after) ← rest.expr after
    .ok (.either first rest, after)

end NamedParams.Regex
