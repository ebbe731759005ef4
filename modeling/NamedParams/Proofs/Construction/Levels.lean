import NamedParams.Proofs.Construction.Events
import NamedParams.Proofs.Log.Gated

/-! The minimum level of the log filters the events of a construction and changes nothing else. -/

namespace NamedParams

open Log (Gate Gated Level Traced)

namespace Setting

/-- The events about an accepted value are filtered by the gate. -/
theorem gated_traceAccepted (s : Setting) (name : String) (a : Attribute) (slots : Slots) :
    Gated fun gate => s.traceAccepted gate name a slots := by
  unfold traceAccepted
  -- Whether anything is logged is a preference, and then only a pattern has a second event.
  cases s.preferences.logAttributes with
  | false => exact .pure ()
  | true =>
    refine .bind (.whenEnabled (Log.Event.level_attachAll _ _)) fun _ => ?_
    cases a with
    | pattern =>
      cases slots.pattern with
      | none => exact .pure ()
      | some pattern => exact .deliver _
    | _ => exact .pure ()

/-- Slots are filled alike behind every gate. -/
theorem gated_fillSlots (s : Setting) (name : String) (declared : List (Attribute × Raw))
    (slots : Slots) : Gated fun gate => s.fillSlots gate name declared slots := by
  -- Induct over the values: whether one is accepted depends on its attribute alone.
  induction declared generalizing slots with
  | nil => exact .pure _
  | cons given rest ih =>
    obtain ⟨a, value⟩ := given
    simp only [fillSlots]
    cases slots.apply a value with
    | error reason => exact .pure _
    | ok filled => exact .bind (s.gated_traceAccepted name a filled) fun _ => ih filled

/-- A parameter of one type is constructed alike behind every gate. -/
theorem gated_constructTyped (s : Setting) (name : String) (mapping : Mapping) :
    Gated fun gate => s.constructTyped gate name mapping := by
  unfold constructTyped
  -- The type and the keys are judged before anything is logged.
  cases ParameterType.resolve (mapping.get? typeKey) with
  | error token => exact .pure _
  | ok type =>
    dsimp only
    cases readAttributes name type mapping.entries with
    | error refusal => exact .pure _
    | ok declared =>
      exact .bindResult (s.gated_fillSlots name declared .empty) (fun _ => .pure _)
        fun _ => .bind (.deliverIf _ _) fun _ => .pure _

/-- Alternatives are constructed alike behind every gate. -/
theorem gated_constructEach (s : Setting) (name : String) (mappings : List Mapping) :
    Gated fun gate => s.constructEach gate name mappings := by
  -- Induct over the alternatives: a refusal ends the construction behind every gate.
  induction mappings with
  | nil => exact .pure _
  | cons mapping rest ih =>
    exact .bindResult (s.gated_constructTyped name mapping) (fun _ => .pure _)
      fun _ => .bindResult ih (fun _ => .pure _) fun _ => .pure _

/-- A parameter with alternatives is constructed alike behind every gate. -/
theorem gated_constructMultiple (s : Setting) (name : String) (mappings : List Mapping) :
    Gated fun gate => s.constructMultiple gate name mappings :=
  -- The warning in front and the success behind are gated like any event.
  .bind (.deliverIf _ _) fun _ =>
    .bindResult (s.gated_constructEach name mappings) (fun _ => .pure _)
      fun _ => .bind (.deliverIf _ _) fun _ => .pure _

/-- A declaration is constructed alike behind every gate. -/
theorem gated_construct (s : Setting) (name : String) (declaration : Declaration) :
    Gated fun gate => s.construct gate name declaration := by
  -- Whatever the declaration comes to, only a refusal is reported.
  have refused (refusal : Refusal) : Gated fun gate => (do
      Traced.whenEnabled gate .error fun _ => Journal.refused name refusal
      pure (Except.error refusal : Except Refusal Parameter)) :=
    .bind (.whenEnabled (Log.Event.level_attachAll _ _)) fun _ => .pure _
  have built (p : Parameter) : Gated fun _ => (do
      pure ()
      pure (Except.ok p : Except Refusal Parameter)) :=
    .bind (.pure ()) fun _ => .pure _
  refine .bind (.whenEnabled (Log.Event.level_attachAll _ _)) fun _ => ?_
  -- One mapping and several differ in what is done before the end only.
  cases declaration with
  | single mapping =>
    exact .bind (s.gated_constructTyped name mapping) fun _ => .bindResult (.pure _) refused built
  | alternatives mappings =>
    exact .bindResult (s.gated_constructMultiple name mappings) refused built

/-- A JSON value is constructed alike behind every gate. -/
theorem gated_constructJson (s : Setting) (name : String) (value : Json) :
    Gated fun gate => s.constructJson gate name value := by
  -- A value that is no declaration logs one error and nothing else.
  unfold constructJson
  cases Declaration.ofJson value with
  | error fault => exact .bind (.whenEnabled rfl) fun _ => .pure _
  | ok declaration => exact .bind (s.gated_construct name declaration) fun _ => .pure _

end Setting

/-- A call for a parameter under some setting. -/
inductive Request where
  | declared (s : Setting) (name : String) (declaration : Declaration)
  | json (s : Setting) (name : String) (value : Json)

namespace Request

/-- Answers a call. -/
def answer (gate : Gate) : Request → Traced (Except Failure Parameter)
  | .declared s name declaration => do
    pure ((← s.construct gate name declaration).mapError .refused)
  | .json s name value => s.constructJson gate name value

/-- Answers calls one after the other, with one log for all of them. -/
def answerAll (gate : Gate) : List Request → Traced (List (Except Failure Parameter))
  | [] => pure []
  | request :: rest => do
    let first ← request.answer gate
    let others ← answerAll gate rest
    pure (first :: others)

/-- One call is answered alike behind every gate. -/
theorem gated_answer (request : Request) : Gated fun gate => request.answer gate := by
  -- Both kinds of requests construct, one of them after decoding.
  cases request with
  | declared s name declaration =>
    exact .bind (s.gated_construct name declaration) fun _ => .pure _
  | json s name value => exact s.gated_constructJson name value

/-- Calls are answered alike behind every gate. -/
theorem gated_answerAll (requests : List Request) : Gated fun gate => answerAll gate requests := by
  -- Induct over the calls: each is answered the same, so the next one starts the same.
  induction requests with
  | nil => exact .pure _
  | cons request rest ih => exact .bind request.gated_answer fun _ => .bind ih fun _ => .pure _

/-- Whatever is called for, a log with a minimum level receives exactly those events that a log for
debugging receives whose level is at most the minimum, in the same order; where no log is installed
there are no events, and the answers are the same in all these cases. -/
theorem events_answerAll (requests : List Request) (minimum : Level) :
    let full := answerAll (some .debug) requests
    let limited := answerAll (some minimum) requests
    let silent := answerAll none requests
    limited.events = full.events.filter (fun e => e.level.rank ≤ minimum.rank) ∧
      silent.events = [] ∧ limited.value = full.value ∧ silent.value = full.value := by
  -- A gate filters what is logged and decides nothing else; no log is a gate that admits nothing.
  intro full limited silent
  have gated := gated_answerAll requests
  have filtered : limited.events = full.events.filter fun e => e.level.rank ≤ minimum.rank :=
    gated.events (some minimum)
  exact ⟨filtered, gated.events_none, gated.value (some minimum), gated.value none⟩

-- A log that takes errors alone receives nothing about the first of these calls.
example (name : String) :
    (answerAll (some .error) [
      .declared ⟨.query, true, true, true⟩ name (.single .empty),
      .json ⟨.query, true, true, true⟩ name .null]).events.map (·.code) =
        [.malformedDeclaration] := rfl

end Request

end NamedParams
