/-! Why a regular expression cannot be used. -/

namespace NamedParams.Regex

/-- The deepest nesting of groups, classes and operators that is accepted. -/
def nestingLimit : Nat := 250

/-- A reason to refuse a regular expression. -/
inductive Fault where
  | classUnclosed
  | classRangeReversed
  | classRangeNotLiteral
  | classEscapeInvalid
  | groupUnclosed
  | groupUnopened
  | groupNameUnclosed
  | groupNameEmpty
  | groupNameInvalid
  | groupNameDuplicate
  | flagUnrecognized
  | flagDuplicate
  | flagNegationRepeated
  | flagNegationDangling
  | flagsUnclosed
  | lookAround
  | backreference
  | repetitionMissing
  | repetitionUnclosed
  | repetitionEmpty
  | repetitionReversed
  | repetitionTooLong
  | escapeUnfinished
  | escapeUnrecognized
  | hexDigitInvalid
  | hexEmpty
  | hexNotCharacter
  | propertyInvalid
  | propertyUnknown
  | propertyValueUnknown
  | unicodeNotAllowed
  | invalidUtf8
  | nestedTooDeeply
  | wordBoundaryOrRepetitionUnclosed
  | wordBoundaryUnrecognized
  | wordBoundaryUnclosed
  | tooLarge (limit : Nat)
  deriving DecidableEq

/--
The wording of a fault.

These are the words at the end of what the engine displays, behind `error: ` on its last line.
For every fault but a size that is too large, the lines above them draw the expression itself.
The drawing is left out here, so no wording holds a part of the expression.
-/
def Fault.message : Fault → String
  | .classUnclosed => "unclosed character class"
  | .classRangeReversed => "invalid character class range, the start must be <= the end"
  | .classRangeNotLiteral => "invalid range boundary, must be a literal"
  | .classEscapeInvalid => "invalid escape sequence found in character class"
  | .groupUnclosed => "unclosed group"
  | .groupUnopened => "unopened group"
  | .groupNameUnclosed => "unclosed capture group name"
  | .groupNameEmpty => "empty capture group name"
  | .groupNameInvalid => "invalid capture group character"
  | .groupNameDuplicate => "duplicate capture group name"
  | .flagUnrecognized => "unrecognized flag"
  | .flagDuplicate => "duplicate flag"
  | .flagNegationRepeated => "flag negation operator repeated"
  | .flagNegationDangling => "dangling flag negation operator"
  | .flagsUnclosed => "expected flag but got end of regex"
  | .lookAround => "look-around, including look-ahead and look-behind, is not supported"
  | .backreference => "backreferences are not supported"
  | .repetitionMissing => "repetition operator missing expression"
  | .repetitionUnclosed => "unclosed counted repetition"
  | .repetitionEmpty => "repetition quantifier expects a valid decimal"
  | .repetitionReversed => "invalid repetition count range, the start must be <= the end"
  | .repetitionTooLong => "decimal literal invalid"
  | .escapeUnfinished => "incomplete escape sequence, reached end of pattern prematurely"
  | .escapeUnrecognized => "unrecognized escape sequence"
  | .hexDigitInvalid => "invalid hexadecimal digit"
  | .hexEmpty => "hexadecimal literal empty"
  | .hexNotCharacter => "hexadecimal literal is not a Unicode scalar value"
  | .propertyInvalid => "invalid Unicode character class"
  | .propertyUnknown => "Unicode property not found"
  | .propertyValueUnknown => "Unicode property value not found"
  | .unicodeNotAllowed => "Unicode not allowed here"
  | .invalidUtf8 => "pattern can match invalid UTF-8"
  | .nestedTooDeeply =>
    s!"exceed the maximum number of nested parentheses/brackets ({nestingLimit})"
  | .wordBoundaryOrRepetitionUnclosed =>
    "found either the beginning of a special word boundary or a bounded repetition on a \\b " ++
      "with an opening brace, but no closing brace"
  | .wordBoundaryUnrecognized =>
    "unrecognized special word boundary assertion, valid choices are: " ++
      "start, end, start-half or end-half"
  | .wordBoundaryUnclosed =>
    "special word boundary assertion is either unclosed or contains an invalid character"
  | .tooLarge limit => s!"Compiled regex exceeds size limit of {limit} bytes."

end NamedParams.Regex
