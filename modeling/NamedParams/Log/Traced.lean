import NamedParams.Log.Event

/-! Computations that log events on their way. -/

namespace NamedParams.Log

/-- The minimum level of the installed log, or nothing where no log is installed. -/
abbrev Gate := Option Level

/-- Whether events of a level reach the log. -/
def Gate.admits (gate : Gate) (level : Level) : Bool :=
  match gate with
  | none => false
  | some minimum => level.passes minimum

/-- A value and the events that were logged before it was found, the first one first. -/
structure Traced (α : Type) where
  value : α
  events : List Event

namespace Traced

instance : Monad Traced where
  pure value := ⟨value, []⟩
  bind first next := ⟨(next first.value).value, first.events ++ (next first.value).events⟩

/-- Hands an event to the log, which keeps it if its level passes. -/
def deliver (gate : Gate) (event : Event) : Traced Unit :=
  ⟨(), if gate.admits event.level then [event] else []⟩

/-- Logs an event that is made only if its level passes. -/
def whenEnabled (gate : Gate) (level : Level) (event : Unit → Event) : Traced Unit :=
  if gate.admits level then deliver gate (event ()) else pure ()

/-- Logs an event if a condition holds. -/
def deliverIf (condition : Bool) (gate : Gate) (event : Event) : Traced Unit :=
  if condition then deliver gate event else pure ()

end Traced

end NamedParams.Log
