import NamedParams.Proofs.Construction.Alternatives
import NamedParams.Proofs.Log.Event

/-! The events that a construction logs, in terms of what it comes to. -/

namespace NamedParams

open Log (Event Level Traced cutMessage)

namespace Journal

/-- A construction begins. -/
def begun (s : Setting) (name : String) (declaration : Declaration) : Event :=
  (Event.debug "Constructing parameter").attachAll
    [("parameter", name), ("location", s.location.name),
      ("multiple", flagText declaration.isMultiple)]

/-- The value of an attribute is accepted. -/
def accepted (name : String) (a : Attribute) : Event :=
  (Event.debug "Attribute accepted").attachAll [("parameter", name), ("attribute", a.name)]

/-- A pattern is compiled. -/
def compiled (name : String) (p : Pattern) : Event :=
  (Event.success .patternCompiled "Pattern compiled").attachAll
    [("parameter", name), ("pattern", p.pinned)]

/-- A parameter of one type is constructed. -/
def constructed (p : TypedParameter) : Event :=
  (Event.success .constructed "Parameter constructed").attachAll
    [("parameter", p.name), ("type", p.definition.type.name),
      ("attributes", toString p.definition.slots.filled.length)]

/-- There are many alternatives. -/
def manyAlternatives (name : String) (count : Nat) : Event :=
  (Event.warning .manyAlternatives "Parameter declares many alternative types").attachAll
    [("parameter", name), ("count", toString count)]

/-- A parameter with alternatives is constructed. -/
def alternativesConstructed (name : String) (count : Nat) : Event :=
  (Event.success .alternativesConstructed "Multi-type parameter constructed").attachAll
    [("parameter", name), ("alternatives", toString count)]

/-- A declaration is refused. -/
def refused (name : String) (refusal : Refusal) : Event :=
  (Event.error refusal.code refusal.message).attachAll
    [("parameter", name), ("error_type", refusal.kindName),
      ("severity", refusal.code.severity.name)]

/-- A value is no declaration. -/
def malformed (name : String) (fault : DeclarationFault) : Event :=
  (Event.error .malformedDeclaration fault.message).attach "parameter" name

/-- What is logged about an accepted value: a pattern has also been compiled. -/
def ofValue (name : String) (given : Attribute × Raw) : List Event :=
  accepted name given.1 ::
    match given.1, given.2.asPattern with
    | .pattern, .ok p => [compiled name p]
    | _, _ => []

/-- The values of a mapping that are accepted, in the order of their keys and in front of the first
one that is rejected; there are none where the type or a key is refused. -/
def acceptedValues (mapping : Mapping) : Except Refusal TypedParameter → List (Attribute × Raw)
  | .error (.unknownType _ _) | .error (.inapplicable _ _ _) => []
  | _ => (mapping.entries.filterMap spelledEntry).takeWhile fun given =>
    (given.1.check given.2).toBool

/-- What is logged about a mapping that comes to a result. -/
def ofMapping (s : Setting) (name : String) (mapping : Mapping)
    (result : Except Refusal TypedParameter) : List Event :=
  (if s.preferences.logAttributes then (acceptedValues mapping result).flatMap (ofValue name)
    else []) ++
  match result with
  | .ok p => if s.preferences.logSuccess then [constructed p] else []
  | .error _ => []

/-- The alternatives that are taken up: those that are built, up to the first that is refused. -/
def takenUp (result : Mapping → Except Refusal TypedParameter) (mappings : List Mapping) :
    List Mapping :=
  mappings.take ((mappings.takeWhile fun mapping => (result mapping).toBool).length + 1)

/-- What is logged about a declaration whose mappings come to results, between the first event and
the error. -/
def ofDeclaration (s : Setting) (name : String) (result : Mapping → Except Refusal TypedParameter) :
    Declaration → List Event
  | .single mapping => ofMapping s name mapping (result mapping)
  | .alternatives mappings =>
    (if 8 < mappings.length then [manyAlternatives name mappings.length] else []) ++
    ((takenUp result mappings).flatMap fun mapping => ofMapping s name mapping (result mapping)) ++
    if s.preferences.logSuccess ∧ ∀ mapping ∈ mappings, (result mapping).toBool then
      [alternativesConstructed name mappings.length]
    else []

/-- The error that is logged about a failure. -/
def ofResult (name : String) : Except Failure Parameter → List Event
  | .ok _ => []
  | .error (.malformed _ fault) => [malformed name fault]
  | .error (.refused refusal) => [refused name refusal]

/-- No error is logged about a value. -/
theorem level_ofValue {name : String} {given : Attribute × Raw} {e : Event}
    (logged : e ∈ ofValue name given) : e.level ≠ .error := by
  -- An accepted value is a debugging note, and a compiled pattern a success.
  unfold ofValue at logged
  rcases List.mem_cons.1 logged with rfl | more
  · simp [accepted, Event.debug, Event.make]
  · split at more
    · rw [List.mem_singleton.1 more]
      simp [compiled, Event.success, Event.make]
    · cases more

/-- No error is logged about a mapping. -/
theorem level_ofMapping {s : Setting} {name : String} {mapping : Mapping}
    {result : Except Refusal TypedParameter} {e : Event}
    (logged : e ∈ ofMapping s name mapping result) : e.level ≠ .error := by
  -- Behind what is logged about the values there is a success at most.
  rcases List.mem_append.1 logged with about_values | in_the_end
  · split at about_values
    · obtain ⟨given, _, about_value⟩ := List.mem_flatMap.1 about_values
      exact level_ofValue about_value
    · cases about_values
  · cases result with
    | error refusal => cases in_the_end
    | ok p =>
      obtain ⟨_, rfl⟩ : s.preferences.logSuccess = true ∧ e = constructed p := by
        simpa using in_the_end
      simp [constructed, Event.success, Event.make]

/-- No error is logged about a declaration before its result is known. -/
theorem level_ofDeclaration {s : Setting} {name : String}
    {result : Mapping → Except Refusal TypedParameter} {declaration : Declaration} {e : Event}
    (logged : e ∈ ofDeclaration s name result declaration) : e.level ≠ .error := by
  -- A single mapping logs what it logs alone; a list adds a warning in front and a success behind.
  cases declaration with
  | single mapping => exact level_ofMapping logged
  | alternatives mappings =>
    rcases List.mem_append.1 logged with in_front | in_the_end
    · rcases List.mem_append.1 in_front with at_first | about_mappings
      · obtain ⟨_, rfl⟩ : 8 < mappings.length ∧ e = manyAlternatives name mappings.length := by
          simpa using at_first
        simp [manyAlternatives, Event.warning, Event.make]
      · obtain ⟨mapping, _, about_mapping⟩ := List.mem_flatMap.1 about_mappings
        exact level_ofMapping about_mapping
    · split at in_the_end
      · rw [List.mem_singleton.1 in_the_end]
        simp [alternativesConstructed, Event.success, Event.make]
      · cases in_the_end

/-- What is logged about a failure is one error with its code, and a refusal is worded in full. -/
theorem ofResult_error (name : String) (failure : Failure) :
    ∃ last, ofResult name (.error failure) = [last] ∧ last.level = .error ∧
      last.code = failure.code ∧
      ∀ refusal, failure = .refused refusal → last.message = cutMessage failure.message := by
  -- Attaching values changes neither the level nor the code nor the message of the error.
  cases failure with
  | malformed parameter fault =>
    refine ⟨malformed name fault, rfl, ?_, ?_, fun refusal other => by cases other⟩ <;>
      simp [malformed, Event.attach, Event.error, Event.make, Failure.code]
  | refused refusal =>
    refine ⟨refused name refusal, rfl, ?_, ?_, fun _ _ => ?_⟩
    · exact Event.level_attachAll _ _
    · exact Event.code_attachAll _ _
    · exact Event.message_attachAll _ _

end Journal

/-- What is read of a mapping is what its keys spell. -/
theorem eq_of_readAttributes {name : String} {type : ParameterType} {entries : List (String × Raw)}
    {declared : List (Attribute × Raw)} (read : readAttributes name type entries = .ok declared) :
    declared = entries.filterMap spelledEntry := by
  -- A key that spells no attribute is that of the type, or it would have been reported.
  fun_induction readAttributes name type entries generalizing declared with
  | case1 => exact (Except.ok.inj read).symm
  | case2 value rest ih =>
    have unspelled : spelledEntry (typeKey, value) = none := rfl
    rw [List.filterMap_cons_none unspelled]
    exact ih read
  | case3 => cases read
  | case4 key value rest notType a applies others own ih =>
    have spelled : spelledEntry (key, value) = some (a, value) := by
      simp [spelledEntry, (Option.filter_eq_some_iff.1 applies).1]
    rw [List.filterMap_cons_some spelled, ← ih own]
    exact (Except.ok.inj read).symm
  | case5 => cases read

/-- A mapping that is not read has a key that does not apply. -/
theorem inapplicable_of_readAttributes {name : String} {type : ParameterType}
    {entries : List (String × Raw)} {refusal : Refusal}
    (unread : readAttributes name type entries = .error refusal) :
    ∃ key, refusal = .inapplicable name key type := by
  -- Induct over the entries: the first key that does not apply is reported.
  fun_induction readAttributes name type entries with
  | case1 => cases unread
  | case2 value rest ih => exact ih unread
  | case3 key value rest notType none => exact ⟨key, (Except.error.inj unread).symm⟩
  | case4 => cases unread
  | case5 key value rest notType a applies own refused ih =>
    exact ih (refused.trans unread)

namespace Setting

variable {s : Setting} {name : String}

/-- Where a pattern is accepted, its slot holds what the value is compiled to. -/
theorem pattern_of_apply {slots filled : Slots} {value : Raw}
    (applied : slots.apply .pattern value = .ok filled) :
    ∃ p, value.asPattern = .ok p ∧ filled.pattern = some p := by
  -- A slot for patterns is filled with the compiled value and nothing else.
  obtain ⟨p, compiled, rfl⟩ := map_eq_ok.1 applied
  exact ⟨p, compiled, rfl⟩

/-- What is logged about a value that has filled its slot. -/
theorem events_traceAccepted {slots filled : Slots} {a : Attribute} {value : Raw}
    (applied : slots.apply a value = .ok filled) :
    (s.traceAccepted (some .debug) name a filled).events =
      if s.preferences.logAttributes then Journal.ofValue name (a, value) else [] := by
  -- What is logged about a value is decided by the preferences first, then by its attribute.
  unfold traceAccepted
  split
  · cases a with
    | pattern =>
      -- Only a pattern leaves a second event, which shows what the slot holds.
      obtain ⟨p, compiled, held⟩ := pattern_of_apply applied
      simp [held, Journal.ofValue, compiled, Journal.accepted, Journal.compiled]
    | _ => simp [Journal.ofValue, Journal.accepted]
  · rfl

/-- While slots are filled, what is logged is about the values in front of the rejected one. -/
theorem events_fillSlots (declared : List (Attribute × Raw)) (slots : Slots) :
    (s.fillSlots (some .debug) name declared slots).events =
      if s.preferences.logAttributes then
        (declared.takeWhile fun given => (given.1.check given.2).toBool).flatMap
          (Journal.ofValue name)
      else [] := by
  -- Induct over the values: the slots filled so far do not matter for what is logged.
  induction declared generalizing slots with
  | nil => simp [fillSlots]
  | cons given rest ih =>
    obtain ⟨a, value⟩ := given
    rw [fillSlots]
    cases applied : slots.apply a value with
    | error reason =>
      -- Nothing is logged from the rejected value on.
      have rejected := Slots.apply_eq_error_iff.1 applied
      simp [rejected, Except.toBool]
    | ok filled =>
      obtain ⟨content, checked, _⟩ := Slots.content?_apply applied
      simp only [Traced.events_bind, events_traceAccepted applied, ih filled]
      split <;> simp [checked, Except.toBool]

/-- A value that is rejected is reported as such. -/
theorem fillSlots_refusal {declared : List (Attribute × Raw)} {slots : Slots} {refusal : Refusal}
    (failed : (s.fillSlots (some .debug) name declared slots).value = .error refusal) :
    ∃ a value reason, refusal = .invalidValue name a value reason := by
  -- Induct over the values up to the first one that its slot rejects.
  induction declared generalizing slots with
  | nil => cases failed
  | cons given rest ih =>
    rw [fillSlots] at failed
    split at failed
    · exact ⟨_, _, _, (Except.error.inj failed).symm⟩
    · exact ih failed

/-- What is logged about a mapping depends on what it comes to. -/
theorem events_constructTyped (mapping : Mapping) :
    (s.constructTyped (some .debug) name mapping).events =
      Journal.ofMapping s name mapping (s.constructTyped (some .debug) name mapping).value := by
  -- Where the type or a key is refused, no value is looked at.
  unfold constructTyped
  split
  · simp [Journal.ofMapping, Journal.acceptedValues]
  · split
    · rename_i unread
      obtain ⟨key, rfl⟩ := inapplicable_of_readAttributes unread
      simp [Journal.ofMapping, Journal.acceptedValues]
    · rename_i declared read
      obtain rfl := eq_of_readAttributes read
      rw [Traced.events_bind, Traced.value_bind, events_fillSlots]
      cases filled : (s.fillSlots (some .debug) name
          (mapping.entries.filterMap spelledEntry) .empty).value with
      | error refusal =>
        -- A rejected value hides no event about the values in front of it.
        obtain ⟨a, value, reason, rfl⟩ := fillSlots_refusal filled
        simp [Journal.ofMapping, Journal.acceptedValues]
      | ok slots => simp [Journal.ofMapping, Journal.acceptedValues, Journal.constructed]

/-- What is logged about alternatives is about those in front of the first refused one, and about
that one. -/
theorem events_constructEach (mappings : List Mapping) :
    let result (mapping : Mapping) := (s.constructTyped (some .debug) name mapping).value
    (s.constructEach (some .debug) name mappings).events =
      (Journal.takenUp result mappings).flatMap fun mapping =>
        Journal.ofMapping s name mapping (result mapping) := by
  -- Induct over the mappings: those behind a refused one are not taken up.
  intro result
  induction mappings with
  | nil => rfl
  | cons mapping rest ih =>
    rw [constructEach, Traced.events_bind, events_constructTyped]
    cases first : (s.constructTyped (some .debug) name mapping).value with
    | error refusal => simp [Journal.takenUp, result, first, Except.toBool]
    | ok p =>
      rw [Traced.events_bind, ih]
      split <;> simp [Journal.takenUp, result, first, Except.toBool]

/-- Alternatives are constructed exactly if each of them is built. -/
theorem toBool_constructEach (mappings : List Mapping) :
    (s.constructEach (some .debug) name mappings).value.toBool = true ↔
      ∀ mapping ∈ mappings, (s.constructTyped (some .debug) name mapping).value.toBool := by
  -- Induct over the mappings: one that is refused ends the list.
  induction mappings with
  | nil => simp [constructEach, Except.toBool]
  | cons mapping rest ih =>
    rw [constructEach, Traced.value_bind, List.forall_mem_cons, ← ih]
    cases (s.constructTyped (some .debug) name mapping).value with
    | error refusal => simp [Except.toBool]
    | ok p =>
      rw [Traced.value_bind]
      cases (s.constructEach (some .debug) name rest).value <;> simp [Except.toBool]

/-- What is logged about a list of alternatives depends on what each of them comes to. -/
theorem events_constructMultiple (mappings : List Mapping) :
    (s.constructMultiple (some .debug) name mappings).events =
      Journal.ofDeclaration s name
        (fun mapping => (s.constructTyped (some .debug) name mapping).value)
        (.alternatives mappings) := by
  -- The two ends of the list are logged by conditions that the specification states on the
  -- mappings.
  have built : (s.constructEach (some .debug) name mappings).value.toBool = true ↔ _ :=
    toBool_constructEach mappings
  have many (events : List Event) :
      (if decide (manyAlternativesThreshold < mappings.length) = true then events else []) =
        if 8 < mappings.length then events else [] := by
    simp only [decide_eq_true_eq]
    rfl
  unfold constructMultiple
  simp only [Traced.events_bind, Traced.events_deliverIf_debug, events_constructEach, many]
  cases result : (s.constructEach (some .debug) name mappings).value with
  | error refusal =>
    -- Without the parameter, some mapping is refused, and no success is logged.
    have some_refused : ¬ ∀ mapping ∈ mappings,
        (s.constructTyped (some .debug) name mapping).value.toBool = true := by
      rw [← built, result]
      simp [Except.toBool]
    simp [Journal.ofDeclaration, Journal.manyAlternatives, some_refused]
  | ok ps =>
    -- With the parameter, each mapping is built, and as many children as mappings are counted.
    have all_built : ∀ mapping ∈ mappings,
        (s.constructTyped (some .debug) name mapping).value.toBool = true := by
      rw [← built, result]
      rfl
    have count : mappings.length = ps.length := (constructEach_eq_ok_iff.1 result).length_eq
    simp only [Journal.ofDeclaration, and_iff_left all_built]
    simp [Journal.manyAlternatives, Journal.alternativesConstructed, count]

/-- What is logged about a declaration: that its construction begins, what happens to its mappings,
and the refusal if it is refused. -/
theorem events_construct (declaration : Declaration) :
    (s.construct (some .debug) name declaration).events =
      Journal.begun s name declaration ::
        (Journal.ofDeclaration s name
          (fun mapping => (s.constructTyped (some .debug) name mapping).value) declaration ++
        Journal.ofResult name
          ((s.construct (some .debug) name declaration).value.mapError .refused)) := by
  -- What the declaration comes to decides about the event in the end.
  cases declaration with
  | single mapping =>
    rw [value_construct_single]
    simp only [construct, Traced.events_bind, Traced.value_pure, Traced.events_pure,
      Traced.events_whenEnabled_debug, events_constructTyped, List.singleton_append,
      List.nil_append]
    cases result : (s.constructTyped (some .debug) name mapping).value <;>
      simp [result, Except.map, Except.mapError, Journal.ofResult, Journal.refused, Journal.begun,
        Journal.ofDeclaration]
  | alternatives mappings =>
    -- What the alternatives come to is what the declaration comes to.
    have value : (s.construct (some .debug) name (.alternatives mappings)).value =
        (s.constructMultiple (some .debug) name mappings).value := by
      simp only [construct, Traced.value_bind]
      split <;> rfl
    rw [value]
    simp only [construct, Traced.events_bind, Traced.events_whenEnabled_debug,
      events_constructMultiple, List.singleton_append]
    cases (s.constructMultiple (some .debug) name mappings).value <;>
      simp [Except.mapError, Journal.ofResult, Journal.refused, Journal.begun]

end Setting

end NamedParams
