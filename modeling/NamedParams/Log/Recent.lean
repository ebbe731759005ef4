import NamedParams.Log.Event

/-! A log that keeps the most recent events in memory. -/

namespace NamedParams.Log

/-- The most events that are kept. -/
def recentCapacity : Nat := 10000

/-- What is done to a log. -/
inductive Operation where
  /-- An event is handed to the log. -/
  | log (event : Event)
  /-- The log is emptied. -/
  | clear
  deriving DecidableEq

/-- A queue of events, with the number of events in it. -/
structure Recent where
  /-- The oldest events, the oldest one first. -/
  front : List Event
  /-- The newest events, the newest one first. -/
  back : List Event
  size : Nat

namespace Recent

/-- No events. -/
def empty : Recent := ⟨[], [], 0⟩

/-- The events, the oldest one first. -/
def toList (r : Recent) : List Event := r.front ++ r.back.reverse

/-- Drops the oldest event. -/
def dropOldest (r : Recent) : Recent :=
  match r.front with
  | _ :: rest => ⟨rest, r.back, r.size - 1⟩
  | [] => ⟨r.back.reverse.tail, [], r.size - 1⟩

/-- Adds an event, and drops the oldest one if there is no room. -/
def push (r : Recent) (event : Event) : Recent :=
  let room := if recentCapacity ≤ r.size then r.dropOldest else r
  ⟨room.front, event :: room.back, room.size + 1⟩

/-- Adds an event if its level passes a minimum level. -/
def log (r : Recent) (minimum : Level) (event : Event) : Recent :=
  if event.level.passes minimum then r.push event else r

/-- The log after an operation, with a minimum level for the events. -/
def perform (minimum : Level) (r : Recent) : Operation → Recent
  | .log event => r.log minimum event
  | .clear => empty

/-- A new log after operations, one after the other. -/
def run (minimum : Level) (operations : List Operation) : Recent :=
  operations.foldl (perform minimum) empty

/-- The errors. -/
def errors (r : Recent) : List Event := r.toList.filter fun e => e.level = .error

/-- The events with a code. -/
def withCode (r : Recent) (code : Code) : List Event := r.toList.filter fun e => e.code = code

/-- Whether there is an error with a code. -/
def hasError (r : Recent) (code : Code) : Bool :=
  r.toList.any fun e => e.level = .error && e.code = code

/-- Whether there is a note with a code. -/
def hasSuccess (r : Recent) (code : Code) : Bool :=
  r.toList.any fun e => e.level = .info && e.code = code

end Recent

end NamedParams.Log
