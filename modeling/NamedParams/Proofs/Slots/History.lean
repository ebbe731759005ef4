import Mathlib.Data.List.Induction
import NamedParams.Proofs.Attribute
import NamedParams.Proofs.Values

/-! Slots behind any sequence of values hold the last value that each attribute has accepted. -/

namespace NamedParams

/-- The values that an attribute accepts. -/
def Attribute.Accepts : Attribute → Raw → Prop
  | .required, value | .repeated, value => ∃ b, value = .boolean b
  | .defaultValue, _ | .example, _ => True
  | .displayName, value | .description, value => ∃ s, value = .string s
  | .minLength, value | .maxLength, value => ∃ n, value = .integer n
  | .choices, value => ∃ members : List String,
    value = .array (members.map .string) ∧ 1 ≤ members.length ∧ members.length ≤ 10000
  | .pattern, value => ∃ source, value = .string source ∧ source.utf8ByteSize ≤ 4096 ∧
    ∃ expr, Regex.compile (Anchors.pin source) patternSizeLimit = .ok expr
  | .minimum, value | .maximum, value => (∃ n, value = .integer n) ∨ ∃ x, value = .float x

/-- A value is given to an attribute, which accepts it and later accepts no other one. -/
def LastAccepted (steps : List (Attribute × Raw)) (a : Attribute) (value : Raw) : Prop :=
  ∃ before after, steps = before ++ (a, value) :: after ∧ a.Accepts value ∧
    ∀ other, (a, other) ∈ after → ¬ a.Accepts other

namespace Slots

/-- The slots behind one step; a value that is refused changes nothing. -/
def attempt (slots : Slots) (step : Attribute × Raw) : Slots :=
  match slots.apply step.1 step.2 with
  | .ok filled => filled
  | .error _ => slots

/-- The slots behind a sequence of steps. -/
def after (slots : Slots) (steps : List (Attribute × Raw)) : Slots := steps.foldl attempt slots

end Slots

namespace Attribute

/-- An attribute accepts exactly the values of which it makes a content. -/
theorem accepts_iff {a : Attribute} {value : Raw} :
    a.Accepts value ↔ ∃ content, a.check value = .ok content := by
  -- Each reading is of values of its own kind, and two of them ask for more.
  have flag : (∃ b, value = .boolean b) ↔ ∃ b, value.asBoolean = .ok b := by
    cases value <;> simp [Raw.asBoolean]
  have text : (∃ s, value = .string s) ↔ ∃ s, value.asText = .ok s := by
    cases value <;> simp [Raw.asText]
  have length : (∃ n, value = .integer n) ↔ ∃ n, value.asInteger = .ok n := by
    cases value <;> simp [Raw.asInteger]
  have bound : ((∃ n, value = .integer n) ∨ ∃ x, value = .float x) ↔
      ∃ b, value.asBound = .ok b := by
    cases value <;> simp [Raw.asBound]
  have choices : (∃ members : List String, value = .array (members.map .string) ∧
      1 ≤ members.length ∧ members.length ≤ 10000) ↔ ∃ list, value.asChoices = .ok list := by
    simp only [Raw.asChoices_eq_ok, ← List.length_pos_iff]
    rfl
  have pattern : (∃ source, value = .string source ∧ source.utf8ByteSize ≤ 4096 ∧
      ∃ expr, Regex.compile (Anchors.pin source) patternSizeLimit = .ok expr) ↔
      ∃ p, value.asPattern = .ok p := by
    simp only [Raw.asPattern_eq_ok, Pattern.compile_eq_ok]
    constructor
    · intro accepted
      obtain ⟨source, rfl, short, expr, meaning⟩ := accepted
      exact ⟨_, source, rfl, short, expr, meaning, rfl⟩
    · intro compiled
      obtain ⟨_, source, rfl, short, expr, meaning, _⟩ := compiled
      exact ⟨source, rfl, short, expr, meaning⟩
  cases a <;> simp only [Accepts, check, exists_map_eq_ok]
  all_goals first
    | exact flag
    | exact text
    | exact length
    | exact bound
    | exact choices
    | exact pattern
    -- Values that are kept as they are pass no check.
    | exact iff_of_true trivial ⟨_, rfl⟩

end Attribute

namespace Slots

variable {slots : Slots} {a : Attribute} {value : Raw}

/-- A step succeeds exactly if the attribute accepts the value. -/
theorem apply_eq_ok_iff : (∃ filled, slots.apply a value = .ok filled) ↔ a.Accepts value := by
  rw [Attribute.accepts_iff]
  -- A slot refuses exactly what its attribute refuses, so it accepts the rest.
  cases applied : slots.apply a value with
  | error reason => simp [apply_eq_error_iff.1 applied]
  | ok filled =>
    obtain ⟨content, checked, _⟩ := content?_apply applied
    simp [checked]

/-- An enumeration is refused for its kind, and else for the number or the kinds of its members. -/
theorem apply_choices_eq_error_iff {reason : ValueFault} :
    slots.apply .choices value = .error reason ↔
      (value.kind ≠ .array ∧ reason = .wrongKind .array value.kind) ∨
        (value.kind = .array ∧ MembersFault value.memberKinds reason) := by
  -- Applying fails with the reason of the check, and the check is that of the reader.
  rw [apply_eq_error_iff, Attribute.check, map_eq_error, Raw.asChoices_eq_error]

/-- A value that is refused changes no slot. -/
theorem attempt_of_refused (refused : ¬ a.Accepts value) : slots.attempt (a, value) = slots := by
  -- Where nothing can be applied, the slots are given back as they were.
  unfold attempt
  split
  · rename_i filled applied
    exact absurd (apply_eq_ok_iff.1 ⟨filled, applied⟩) refused
  · rfl

/-- A value that is accepted stands in its own slot, as it was given, and changes no other one. -/
theorem raw?_attempt_of_accepted (accepted : a.Accepts value) (b : Attribute) :
    (slots.attempt (a, value)).raw? b = if b = a then some value else slots.raw? b := by
  -- One slot is written with a content that stands for the value, and no other changes.
  obtain ⟨filled, applied⟩ : ∃ filled, slots.apply a value = .ok filled :=
    apply_eq_ok_iff.2 accepted
  obtain ⟨content, checked, written⟩ := content?_apply applied
  have behind : slots.attempt (a, value) = filled := by simp [attempt, applied]
  rw [behind, raw?_eq, raw?_eq, written]
  split
  · rw [Option.map_some, Attribute.toRaw_of_check checked]
  · rfl

end Slots

/-- No value has been accepted before the first step. -/
theorem not_lastAccepted_nil (a : Attribute) (value : Raw) : ¬ LastAccepted [] a value := by
  -- There is no step that could be the last one.
  intro last
  obtain ⟨before, after, split, _⟩ := last
  simp at split

/-- The last value that is accepted is that of the last step if it is accepted there, and one of the
steps before otherwise. -/
theorem lastAccepted_append {steps : List (Attribute × Raw)} {a b : Attribute} {value other : Raw} :
    LastAccepted (steps ++ [(a, value)]) b other ↔
      (b = a ∧ a.Accepts value ∧ other = value) ∨
        (¬ (b = a ∧ a.Accepts value) ∧ LastAccepted steps b other) := by
  constructor
  · intro last
    obtain ⟨before, after, split, accepted, later⟩ := last
    -- The value is that of the last step if none is behind it, and else one of the steps before.
    cases after using List.reverseRecOn with
    | nil =>
      obtain ⟨_, same⟩ := List.append_inj' split rfl
      cases same
      exact .inl ⟨rfl, accepted, rfl⟩
    | append_singleton behind last =>
      have regroup : steps ++ [(a, value)] = (before ++ (b, other) :: behind) ++ [last] := by
        rw [split]
        simp
      obtain ⟨rfl, same⟩ := List.append_inj' regroup rfl
      cases same
      have unchanged : ¬ (b = a ∧ a.Accepts value) := by
        -- The last value would be accepted behind the one that no other follows.
        intro replaced
        obtain ⟨rfl, again⟩ := replaced
        exact later value (by simp) again
      exact .inr ⟨unchanged, before, behind, rfl, accepted,
        fun w member => later w (by simp [member])⟩
  · intro last
    -- Behind a step that changes nothing here, an earlier value is still the last.
    rcases last with ⟨rfl, accepted, rfl⟩ | ⟨unchanged, before, after, rfl, accepted, later⟩
    · exact ⟨steps, [], rfl, accepted, by simp⟩
    · refine ⟨before, after ++ [(a, value)], by simp, accepted, ?_⟩
      intro w member again
      rcases List.mem_append.1 member with inside | last
      · exact later w inside again
      · cases List.mem_singleton.1 last
        exact unchanged ⟨rfl, again⟩

/-- Each slot holds the last value that its attribute has accepted, as it was given. -/
theorem Slots.raw?_after (steps : List (Attribute × Raw)) (a : Attribute) (value : Raw) :
    (Slots.empty.after steps).raw? a = some value ↔ LastAccepted steps a value := by
  -- Induct over the steps from the end: the last one replaces a value or changes nothing.
  induction steps using List.reverseRecOn with
  | nil =>
    have empty : (Slots.empty.after []).raw? a = none := by cases a <;> rfl
    simp [empty, not_lastAccepted_nil]
  | append_singleton front step ih =>
    obtain ⟨b, given⟩ := step
    have behind : Slots.empty.after (front ++ [(b, given)]) =
        (Slots.empty.after front).attempt (b, given) := by
      simp [after]
    rw [behind, lastAccepted_append]
    by_cases accepted : b.Accepts given
    · rw [raw?_attempt_of_accepted accepted]
      by_cases own : a = b
      · simp [own, accepted, eq_comm]
      · simp [own, ih]
    · rw [attempt_of_refused accepted, ih]
      simp [accepted]

/-- Slots that hold a finite map from attributes to values, in all their views. -/
structure Slots.Hold (slots : Slots) (bound : Attribute → Raw → Prop) : Prop where
  raw : ∀ a value, slots.raw? a = some value ↔ bound a value
  isFilled : ∀ a, slots.isFilled a = true ↔ ∃ value, bound a value
  filled : ∀ a, a ∈ slots.filled ↔ ∃ value, bound a value
  ordered : slots.filled.Sublist Attribute.all
  once : slots.filled.Nodup
  mapping : ∀ key value, slots.toMapping.get? key = some value ↔ ∃ a, a.name = key ∧ bound a value

/-- Slots hold a finite map in all their views if they hold its values. -/
theorem Slots.hold_of_raw? {slots : Slots} {bound : Attribute → Raw → Prop}
    (raw : ∀ a value, slots.raw? a = some value ↔ bound a value) : slots.Hold bound := by
  have isFilled (a : Attribute) : slots.isFilled a = true ↔ ∃ value, bound a value := by
    simp only [← raw, raw?_eq, isFilled_eq]
    cases slots.content? a <;> simp
  refine ⟨raw, isFilled, fun a => mem_filled.trans (isFilled a), List.filter_sublist,
    slots.nodup_filled, fun key value => ?_⟩
  rw [Mapping.get?, Entries.lookup_eq_some_iff slots.toMapping.increasing, mem_toMapping]
  -- The entry of a slot holds the value of the slot under the canonical key.
  simp only [← raw, raw?_eq, Option.map_eq_some_iff]
  constructor
  · rintro ⟨a, content, here, same⟩
    cases same
    exact ⟨a, rfl, content, here, rfl⟩
  · rintro ⟨a, rfl, content, here, rfl⟩
    exact ⟨a, content, here, rfl⟩

/-- Behind any sequence of steps on empty slots, a step succeeds exactly if its attribute accepts the
value, and changes nothing otherwise; an enumeration is refused for its kind, and else for the number
or the kinds of its members. What the slots hold is the last value that each attribute accepted. -/
theorem Slots.hold_lastAccepted (steps : List (Attribute × Raw)) :
    let slots := Slots.empty.after steps
    (∀ a value, ((∃ filled, slots.apply a value = .ok filled) ↔ a.Accepts value) ∧
      ∀ reason, slots.apply a value = .error reason → slots.attempt (a, value) = slots) ∧
    (∀ value reason, slots.apply .choices value = .error reason ↔
      (value.kind ≠ .array ∧ reason = .wrongKind .array value.kind) ∨
        (value.kind = .array ∧ MembersFault value.memberKinds reason)) ∧
    slots.Hold (LastAccepted steps) := by
  intro slots
  refine ⟨fun a value => ⟨apply_eq_ok_iff, fun reason failed => attempt_of_refused ?_⟩,
    fun value reason => apply_choices_eq_error_iff, hold_of_raw? (raw?_after steps)⟩
  -- A step that failed has not succeeded.
  intro accepted
  obtain ⟨filled, applied⟩ : ∃ filled, slots.apply a value = .ok filled :=
    apply_eq_ok_iff.2 accepted
  cases failed.symm.trans applied

-- A length that is refused leaves the one before in place, and null is a default like any other.
example : (Slots.empty.after [(.minLength, .integer 2), (.defaultValue, .null),
    (.minLength, .string "3")]).filled = [.defaultValue, .minLength] := by decide

end NamedParams
