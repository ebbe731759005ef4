import NamedParams.Pattern.Anchors
import NamedParams.Regex

/-! Declared patterns, compiled with anchors that no flag can turn into line anchors. -/

namespace NamedParams

/-- The longest pattern that is accepted, in bytes. -/
def maxPatternLength : Nat := 4096

/-- The memory that a compiled pattern may take, in bytes. -/
def patternSizeLimit : Nat := 1024 * 1024

/-- Why a text is not a pattern. -/
inductive PatternFault where
  | tooLong (length : Nat)
  | rejected (cause : Regex.Fault)
  deriving DecidableEq

/-- A compiled pattern. -/
structure Pattern where
  /-- The pattern as it was declared. -/
  source : String
  /-- The pattern with its anchors pinned to the ends of the text. -/
  pinned : String
  expr : Regex.Expr

namespace Pattern

/-- Pins the anchors of a pattern and compiles it. -/
def compile (source : String) : Except PatternFault Pattern :=
  if maxPatternLength < source.utf8ByteSize then .error (.tooLong source.utf8ByteSize)
  else
    let pinned := Anchors.pin source
    match Regex.compile pinned patternSizeLimit with
    | .ok expr => .ok ⟨source, pinned, expr⟩
    | .error cause => .error (.rejected cause)

/-- What a compiled pattern is made of. -/
theorem compile_eq_ok {source : String} {p : Pattern} :
    compile source = .ok p ↔ source.utf8ByteSize ≤ maxPatternLength ∧
      ∃ expr, Regex.compile (Anchors.pin source) patternSizeLimit = .ok expr ∧
        p = ⟨source, Anchors.pin source, expr⟩ := by
  -- A source that is too long is refused before the engine sees it.
  unfold compile
  split
  · rename_i long
    simp [Nat.not_le.2 long]
  · rename_i short
    simp only
    split <;> rename_i result <;> simp [result, Nat.not_lt.1 short, eq_comm]

/-- Whether the pattern matches somewhere in a text. -/
def isMatch (p : Pattern) (text : String) : Bool := p.expr.matches text

/-- Patterns are equal when their pinned forms are. -/
instance : BEq Pattern := ⟨fun p q => p.pinned == q.pinned⟩

end Pattern

end NamedParams
