import NamedParams.Json.Writer
import NamedParams.Log.Code
import NamedParams.Log.Level

/-! Log events and their written forms. -/

namespace NamedParams.Log

/-- The most bytes of a message that an event keeps. -/
def maxMessageBytes : Nat := 2048

/-- The last place in front of a byte, or at it, where a text can be cut between characters. -/
def lastBoundary (text : String) (byte : Nat) : text.Pos :=
  if boundary : (⟨byte⟩ : String.Pos.Raw).IsValid text then text.pos ⟨byte⟩ boundary
  else
    -- A text can be cut at its start, so there is a byte in front.
    have inside : byte ≠ 0 := fun start => boundary (start ▸ String.Pos.Raw.isValid_zero)
    lastBoundary text (byte - 1)
termination_by byte

/-- A message, cut between characters if it is too long. -/
def cutMessage (message : String) : String :=
  if maxMessageBytes < message.utf8ByteSize then
    (message.sliceTo (lastBoundary message maxMessageBytes)).copy ++ "..."
  else message

/-- Values under distinct keys, in no particular order. -/
structure Context where
  entries : List (String × String)
  distinct : Entries.Distinct entries
  deriving DecidableEq

namespace Context

/-- No values at all. -/
def empty : Context := ⟨[], List.Pairwise.nil⟩

/-- Adds a value, in place of an earlier value of the key. -/
def attach (c : Context) (key value : String) : Context where
  entries := (key, value) :: c.entries.filter fun pair => pair.1 ≠ key
  distinct := by
    -- Only entries of other keys stay behind the new one.
    refine List.pairwise_cons.2 ⟨fun other kept => ?_, List.Pairwise.filter _ c.distinct⟩
    have different : other.1 ≠ key := of_decide_eq_true (List.mem_filter.1 kept).2
    exact different.symm

/-- The values in increasing order of their keys. -/
def sorted (c : Context) : List (String × String) := Entries.sort c.entries

end Context

/-- A log event. -/
structure Event where
  level : Level
  code : Code
  message : String
  context : Context
  deriving DecidableEq

namespace Event

/-- An event without context. -/
def make (level : Level) (code : Code) (message : String) : Event :=
  ⟨level, code, cutMessage message, .empty⟩

/-- An error. -/
def error (code : Code) (message : String) : Event := make .error code message

/-- A warning. -/
def warning (code : Code) (message : String) : Event := make .warning code message

/-- A success, which is a note with a code. -/
def success (code : Code) (message : String) : Event := make .info code message

/-- A note. -/
def info (message : String) : Event := make .info .plainInfo message

/-- A debugging note. -/
def debug (message : String) : Event := make .debug .plainDebug message

/-- Adds a value to the context, in place of an earlier value of the key. -/
def attach (e : Event) (key value : String) : Event :=
  { e with context := e.context.attach key value }

/-- Adds values to the context one after the other. -/
def attachAll (e : Event) (context : List (String × String)) : Event :=
  context.foldl (fun e pair => e.attach pair.1 pair.2) e

/-- The event on one line. -/
def line (e : Event) : String :=
  let head := s!"[{e.level.label}] {e.code.text} - {e.message}"
  if e.context.entries.isEmpty then head
  else
    let pairs := e.context.sorted.map fun pair => pair.1 ++ "=" ++ pair.2
    head ++ " (" ++ ", ".intercalate pairs ++ ")"

/-- The event as JSON, with the time in seconds; times before the epoch count as the epoch. -/
def toJson (e : Event) (seconds : Int) : Json :=
  let base := [
    ("timestamp", Json.ofNat seconds.toNat),
    ("level", .string e.level.label),
    ("code", .string e.code.text),
    ("message", .string e.message),
    ("category", .string e.code.category),
    ("severity", .string e.code.severity.name)]
  let metadata :=
    if e.level = .error then
      [("error_metadata", Json.ofEntries [
        ("description", .string e.code.description),
        ("recommended_action", .string e.code.action)])]
    else []
  let context :=
    if e.context.entries.isEmpty then []
    else [("context", Json.ofEntries (e.context.entries.map fun pair => (pair.1, .string pair.2)))]
  Json.ofEntries (base ++ metadata ++ context)

/-- The JSON text of the event. -/
def jsonLine (e : Event) (seconds : Int) : String := (e.toJson seconds).compact

end Event

end NamedParams.Log
