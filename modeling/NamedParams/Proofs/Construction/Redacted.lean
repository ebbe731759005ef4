import NamedParams.Proofs.Construction.Levels
import NamedParams.Proofs.Values

/-! Where rejected values are kept back, a refusal tells no more about values than their kinds. -/

namespace NamedParams

open Log (Gate)

/-- Mappings of the same keys, with the same type and the same pattern, whose other values agree in
their kinds and whose choices agree in the kinds of their members; defaults and examples are free. -/
structure Mapping.Alike (first second : Mapping) : Prop where
  keys : first.entries.map Prod.fst = second.entries.map Prod.fst
  -- The type is shown in a refusal as it is, and whether a pattern compiles depends on its text.
  type : first.get? typeKey = second.get? typeKey
  pattern : first.get? "pattern" = second.get? "pattern"
  kinds : ∀ key value other, first.get? key = some value → second.get? key = some other →
    key ≠ "default" → key ≠ "example" → value.kind = other.kind
  members : ∀ value other, first.get? "enum" = some value → second.get? "enum" = some other →
    value.memberKinds = other.memberKinds

/-- Declarations of mappings that are alike, each at its place. -/
inductive Declaration.Alike : Declaration → Declaration → Prop where
  | single {first second : Mapping} (alike : first.Alike second) : Alike (.single first) (.single second)
  | alternatives {first second : List Mapping} (alike : List.Forall₂ Mapping.Alike first second) :
    Alike (.alternatives first) (.alternatives second)

namespace Mapping.Alike

variable {first second : Mapping}

/-- A mapping is alike to itself. -/
theorem refl (mapping : Mapping) : mapping.Alike mapping where
  -- What a key binds it binds once.
  keys := rfl
  type := rfl
  pattern := rfl
  kinds _ _ _ here there _ _ := by rw [Option.some.inj (here.symm.trans there)]
  members _ _ here there := by rw [Option.some.inj (here.symm.trans there)]

/-- Which of two mappings comes first does not matter. -/
theorem symm (alike : first.Alike second) : second.Alike first where
  keys := alike.keys.symm
  type := alike.type.symm
  pattern := alike.pattern.symm
  kinds key value other here there notDefault notExample :=
    (alike.kinds key other value there here notDefault notExample).symm
  members value other here there := (alike.members other value there here).symm

/-- The same types are declared. -/
theorem declares (alike : first.Alike second) {type : ParameterType}
    (declares : first.Declares type) : second.Declares type := by
  -- The two mappings bind the key of the type alike.
  rwa [Mapping.Declares, ← alike.type]

/-- Every entry has a counterpart of its key that is refused for whatever reason it is. -/
theorem counterpart (alike : first.Alike second) {entry : String × Raw}
    (member : entry ∈ first.entries) :
    ∃ other ∈ second.entries, other.1 = entry.1 ∧
      ∀ a reason, entry.1 ∈ Attribute.spellings a → a.check entry.2 = .error reason →
        a.check other.2 = .error reason := by
  -- The counterpart stands under the same key, which no other entry has.
  obtain ⟨key, value⟩ := entry
  have keyed : key ∈ second.entries.map Prod.fst := alike.keys ▸ List.mem_map_of_mem member
  obtain ⟨⟨_, other⟩, inside, rfl⟩ := List.mem_map.1 keyed
  refine ⟨_, inside, rfl, fun a reason spelled refused => ?_⟩
  have here := Entries.lookup_eq_some_of_mem first.increasing member
  have there := Entries.lookup_eq_some_of_mem second.increasing inside
  by_cases pattern : a = .pattern
  · -- The same pattern stands in both.
    subst pattern
    obtain rfl := List.mem_singleton.1 spelled
    obtain rfl : value = other := Option.some.inj ((here.symm.trans alike.pattern).trans there)
    exact refused
  · -- A key of another attribute that expects some kind is neither that of defaults nor of examples.
    refine Attribute.check_eq_error_of_kind pattern (fun expects => ?_) (fun choices => ?_) refused
    · refine alike.kinds _ _ _ here there ?_ ?_ <;> rintro rfl
      · cases Attribute.eq_of_mem_spellings spelled (Attribute.name_mem_spellings .defaultValue)
        exact expects rfl
      · cases Attribute.eq_of_mem_spellings spelled (Attribute.name_mem_spellings .example)
        exact expects rfl
    · subst choices
      obtain rfl := List.mem_singleton.1 spelled
      exact alike.members _ _ here there

end Mapping.Alike

/-- Which of two declarations comes first does not matter. -/
theorem Declaration.Alike.symm {first second : Declaration} (alike : first.Alike second) :
    second.Alike first := by
  -- Lists are alike mapping by mapping.
  cases alike with
  | single same => exact .single same.symm
  | alternatives same => exact .alternatives (same.flip.imp fun _ _ each => each.symm)

/-- An entry is inapplicable for its key alone. -/
theorem Inapplicable.of_key {type : ParameterType} {entry other : String × Raw}
    (faulty : Inapplicable type entry) (same : other.1 = entry.1) : Inapplicable type other := by
  -- Whether an entry applies is decided by its key alone.
  rwa [Inapplicable, same]

/-- Mappings that are alike are refused alike where rejected values are kept back. -/
theorem Verdict.error_of_alike {s : Setting} {name : String} {first second : Mapping}
    {refusal : Refusal} (redacts : s.preferences.includeValues = false)
    (alike : first.Alike second) (verdict : Verdict s name first (.error refusal)) :
    Verdict s name second (.error refusal) := by
  -- Each gate stops at the same key in both, since faults correspond in both directions.
  cases verdict with
  | @unknownType token unknown => exact .unknownType ⟨alike.type ▸ unknown.1, unknown.2⟩
  | @inapplicable type entry declares least =>
    obtain ⟨other, inside, same, _⟩ := alike.counterpart least.1
    rw [← same]
    refine .inapplicable (alike.declares declares)
      (least.of_counterparts inside same (least.2.1.of_key same) fun found among faulty => ?_)
    obtain ⟨origin, member, key, _⟩ := alike.symm.counterpart among
    exact ⟨origin, member, key, faulty.of_key key⟩
  | @rejected type entry a reason declares applicable least spelled refused =>
    obtain ⟨other, inside, same, keeps⟩ := alike.counterpart least.1
    -- The text of the value is kept back, so it is the same for the counterpart.
    have shown : s.showValue entry.2 = s.showValue other.2 := by
      simp [Setting.showValue, redacts]
    rw [shown]
    refine .rejected (alike.declares declares) (fun found among faulty => ?_)
      (least.of_counterparts inside same ⟨a, reason, same ▸ spelled, keeps a reason spelled refused⟩
        fun found among rejected => ?_) (same ▸ spelled) (keeps a reason spelled refused)
    · obtain ⟨origin, member, key, _⟩ := alike.symm.counterpart among
      exact applicable origin member (faulty.of_key key)
    · -- What the second mapping rejects is rejected in the first, whose least entry is known.
      obtain ⟨b, fault, spells, fails⟩ := rejected
      obtain ⟨origin, member, key, back⟩ := alike.symm.counterpart among
      exact ⟨origin, member, key, b, fault, key ▸ spells, back b fault spells fails⟩

namespace Setting

variable {s : Setting} {gate : Gate} {name : String}

/-- Alternatives that are alike are refused alike. -/
theorem constructEach_error_of_alike (redacts : s.preferences.includeValues = false)
    {first second : List Mapping} (alike : List.Forall₂ Mapping.Alike first second)
    {refusal : Refusal} (refused : (s.constructEach gate name first).value = .error refusal) :
    (s.constructEach gate name second).value = .error refusal := by
  -- Induct over both lists: where the first alternative is built, so is its counterpart.
  induction alike with
  | nil => exact refused
  | @cons mapping other rest others same _ ih =>
    rw [constructEach_cons_eq_error_iff] at refused ⊢
    rcases refused with own | ⟨⟨p, built⟩, later⟩
    · exact .inl (constructTyped_eq_error_iff.2
        ((constructTyped_eq_error_iff.1 own).error_of_alike redacts same))
    · refine .inr ⟨?_, ih later⟩
      cases result : (s.constructTyped gate name other).value with
      | ok q => exact ⟨q, rfl⟩
      | error early =>
        -- A refusal of the counterpart would be one of the alternative itself.
        have back := (constructTyped_eq_error_iff.1 result).error_of_alike redacts same.symm
        cases built.symm.trans (constructTyped_eq_error_iff.2 back)

/-- Declarations that are alike are refused alike. -/
theorem construct_error_of_alike (redacts : s.preferences.includeValues = false)
    {first second : Declaration} (alike : first.Alike second) {refusal : Refusal}
    (refused : (s.construct gate name first).value = .error refusal) :
    (s.construct gate name second).value = .error refusal := by
  -- A list is refused for its first refused mapping, and so is the other list.
  cases alike with
  | single same =>
    rw [construct_single_eq_error_iff, constructTyped_eq_error_iff] at refused ⊢
    exact refused.error_of_alike redacts same
  | alternatives same =>
    rw [value_construct_alternatives, map_eq_error] at refused ⊢
    exact constructEach_error_of_alike redacts same refused

/-- The errors logged about a declaration are those that its result comes with, where the gate
admits them. -/
theorem errors_construct (declaration : Declaration) :
    (s.construct gate name declaration).events.filter (·.level = .error) =
      (Journal.ofResult name ((s.construct gate name declaration).value.mapError .refused)).filter
        fun e => gate.admits e.level := by
  have gated := s.gated_construct name declaration
  have harmless : ∀ e ∈ Journal.ofDeclaration s name
      (fun mapping => (s.constructTyped (some .debug) name mapping).value) declaration,
      ¬ decide (e.level = .error) := fun e logged => by
    simpa using Journal.level_ofDeclaration logged
  -- The gate only filters what a log for debugging receives, so that journal is searched instead.
  rw [gated.events gate, gated.value gate, List.filter_comm, events_construct, List.filter_cons_of_neg,
    List.filter_append, List.filter_eq_nil_iff.2 harmless, List.nil_append]
  · -- A failure is logged as one error, and a success is not.
    congr 1
    cases (s.construct (some .debug) name declaration).value with
    | ok p => rfl
    | error refusal =>
      obtain ⟨last, only, grave, _⟩ := Journal.ofResult_error name (.refused refusal)
      simp [Except.mapError, only, grave]
  · simp [Journal.begun, Log.Event.debug, Log.Event.make]

end Setting

/-- Where rejected values are kept back, declarations that are alike are both built, or both refused
with the same refusal and the same error in the log. -/
theorem construct_redacted (s : Setting) (gate : Gate) (name : String) {first second : Declaration}
    (redacts : s.preferences.includeValues = false) (alike : first.Alike second) :
    let one := s.construct gate name first
    let other := s.construct gate name second
    ((∃ p q, one.value = .ok p ∧ other.value = .ok q) ∨
      ∃ refusal, one.value = .error refusal ∧ other.value = .error refusal) ∧
      one.events.filter (·.level = .error) = other.events.filter (·.level = .error) := by
  intro one other
  have results : (∃ p q, one.value = .ok p ∧ other.value = .ok q) ∨
      ∃ refusal, one.value = .error refusal ∧ other.value = .error refusal := by
    cases built : one.value with
    | error refusal =>
      exact .inr ⟨refusal, rfl, Setting.construct_error_of_alike redacts alike built⟩
    | ok p =>
      cases rebuilt : other.value with
      | ok q => exact .inl ⟨p, q, rfl, rfl⟩
      | error refusal =>
        -- The first would be refused as the second is.
        have back := Setting.construct_error_of_alike redacts alike.symm rebuilt
        cases built.symm.trans back
  -- Equal results come with equal errors.
  refine ⟨results, ?_⟩
  rw [Setting.errors_construct, Setting.errors_construct]
  rcases results with ⟨p, q, built, rebuilt⟩ | ⟨refusal, refused, again⟩
  · rw [built, rebuilt]
    rfl
  · rw [refused, again]

/-- A secret default and the members of an enumeration do not show in a refusal. -/
theorem construct_redacted_of_secrets :
    let s : Setting := ⟨.query, false, false, false⟩
    let one : Mapping :=
      ⟨[("default", .string "secret"), ("enum", .array [.string "r", .integer 1])],
        by unfold Entries.Increasing; decide⟩
    let other : Mapping :=
      ⟨[("default", .null), ("enum", .array [.string "", .integer 2])],
        by unfold Entries.Increasing; decide⟩
    let first := s.construct (some .debug) "p" (.alternatives [.empty, one])
    let second := s.construct (some .debug) "p" (.alternatives [.empty, other])
    let refusal : Refusal := .invalidValue "p" .choices "<redacted>" (.choiceNotString 1 .integer)
    first.value = .error refusal ∧ second.value = .error refusal ∧
      first.events.filter (·.level = .error) = second.events.filter (·.level = .error) := by
  intro s one other first second refusal
  -- The defaults may differ in kind, the choices in their texts only.
  have alike : one.Alike other := by
    refine ⟨rfl, rfl, rfl, fun key value found here there notDefault _ => ?_, ?_⟩
    · -- Apart from the default, only the choices have a value.
      by_cases choices : key = "enum"
      · subst choices
        cases here
        cases there
        rfl
      · simp [one, Mapping.get?, List.lookup_cons, beq_eq_false_iff_ne.2 notDefault,
          beq_eq_false_iff_ne.2 choices] at here
    · rintro _ _ ⟨⟩ ⟨⟩
      rfl
  have refused : first.value = .error refusal := rfl
  have redacted := construct_redacted s (some .debug) "p" rfl
    (.alternatives (.cons (.refl .empty) (.cons alike .nil)))
  rcases redacted with ⟨⟨p, q, built, _⟩ | ⟨same, again, there⟩, errors⟩
  · cases refused.symm.trans built
  · cases refused.symm.trans again
    exact ⟨refused, there, errors⟩

end NamedParams
