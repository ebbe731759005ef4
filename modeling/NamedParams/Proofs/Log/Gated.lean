import NamedParams.Proofs.Log.Traced

/-! Computations that depend on the minimum level of the log only through the events it lets pass. -/

namespace NamedParams.Log

variable {ε α β : Type}

/-- Behind every gate a computation has the value that it has behind that of a debugging log, and
logs those of the events logged there whose levels the gate admits. -/
structure Gated (run : Gate → Traced α) : Prop where
  value : ∀ gate, (run gate).value = (run (some .debug)).value
  events : ∀ gate, (run gate).events =
    (run (some .debug)).events.filter fun e => gate.admits e.level

namespace Gated

/-- A value that is given as it is logs nothing behind any gate. -/
theorem pure (a : α) : Gated fun _ => (Pure.pure a : Traced α) :=
  -- A value comes without events, and there is nothing to filter.
  ⟨fun _ => rfl, fun _ => rfl⟩

/-- What follows a computation is gated if it is so for every value that it may start from. -/
theorem bind {first : Gate → Traced α} {next : Gate → α → Traced β} (gated : Gated first)
    (behind : ∀ a, Gated fun gate => next gate a) :
    Gated fun gate => first gate >>= next gate := by
  refine ⟨fun gate => ?_, fun gate => ?_⟩
  · rw [Traced.value_bind, Traced.value_bind, gated.value gate]
    exact (behind _).value gate
  · -- The events of both parts are filtered separately, and the second part starts from one value.
    rw [Traced.events_bind, Traced.events_bind, List.filter_append, gated.value gate,
      ← gated.events gate, ← (behind _).events gate]

/-- What follows a computation that may fail is gated if it is so after every failure and after every
success. -/
theorem bindResult {first : Gate → Traced (Except ε α)} {next : Gate → Except ε α → Traced β}
    (gated : Gated first) (failed : ∀ e, Gated fun gate => next gate (.error e))
    (succeeded : ∀ a, Gated fun gate => next gate (.ok a)) :
    Gated fun gate => first gate >>= next gate := by
  -- Either way the result has gone, there is a continuation that lets the gate alone.
  refine gated.bind fun result => ?_
  cases result with
  | error e => exact failed e
  | ok a => exact succeeded a

/-- An event that is handed over is kept exactly if the gate admits its level. -/
theorem deliver (event : Event) : Gated fun gate => Traced.deliver gate event := by
  -- The whole trace is this one event, and the gate decides about its level.
  refine ⟨fun _ => rfl, fun gate => ?_⟩
  rw [Traced.events_deliver_debug, Traced.deliver, List.filter_cons, List.filter_nil]

/-- A level that is asked for before an event is made decides as the event's own level would. -/
theorem whenEnabled {level : Level} {event : Unit → Event} (same : (event ()).level = level) :
    Gated fun gate => Traced.whenEnabled gate level event := by
  refine ⟨fun gate => rfl, fun gate => ?_⟩
  rw [Traced.events_whenEnabled_debug, List.filter_cons, List.filter_nil, same, Traced.whenEnabled]
  -- Where the level passes, it passes again when the event is handed over.
  split
  · rename_i passes
    simp [Traced.deliver, same, passes]
  · rfl

/-- A condition on an event does not depend on the gate. -/
theorem deliverIf (condition : Bool) (event : Event) :
    Gated fun gate => Traced.deliverIf condition gate event := by
  -- A condition that does not hold leaves no event at all.
  cases condition with
  | true => exact deliver event
  | false => exact pure ()

/-- Nothing is logged where no log is installed. -/
theorem events_none {run : Gate → Traced α} (gated : Gated run) : (run none).events = [] := by
  -- Where there is no service, no event passes.
  rw [gated.events none]
  exact List.filter_eq_nil_iff.2 fun _ _ => Bool.false_ne_true

end Gated

end NamedParams.Log
