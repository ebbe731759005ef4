import NamedParams.Log.Traced

/-! Values and events of computations that log. -/

namespace NamedParams.Log.Traced

variable {α β : Type}

/-- A value that is given as it is. -/
@[simp] theorem value_pure (a : α) : (pure a : Traced α).value = a := rfl

/-- What follows a computation starts from its value. -/
@[simp] theorem value_bind (first : Traced α) (next : α → Traced β) :
    (first >>= next).value = (next first.value).value := rfl

/-- Giving a value logs nothing. -/
@[simp] theorem events_pure (a : α) : (pure a : Traced α).events = [] := rfl

/-- What follows a computation logs its events behind those of the computation. -/
@[simp] theorem events_bind (first : Traced α) (next : α → Traced β) :
    (first >>= next).events = first.events ++ (next first.value).events := rfl

/-- A log for debugging keeps every event. -/
@[simp] theorem events_deliver_debug (event : Event) :
    (deliver (some .debug) event).events = [event] := by
  -- A debugging log admits every level.
  have admitted : Gate.admits (some .debug) event.level = true := by cases event.level <;> rfl
  simp [deliver, admitted]

/-- In a log for debugging, every event that may be made is made. -/
@[simp] theorem events_whenEnabled_debug (level : Level) (event : Unit → Event) :
    (whenEnabled (some .debug) level event).events = [event ()] := by
  -- A debugging log admits every level.
  have admitted : Gate.admits (some .debug) level = true := by cases level <;> rfl
  simp [whenEnabled, admitted]

/-- In a log for debugging, an event is kept exactly if its condition holds. -/
@[simp] theorem events_deliverIf_debug (condition : Bool) (event : Event) :
    (deliverIf condition (some .debug) event).events = if condition then [event] else [] := by
  cases condition <;> simp [deliverIf]

end NamedParams.Log.Traced
