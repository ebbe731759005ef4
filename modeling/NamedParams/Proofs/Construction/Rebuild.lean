import Mathlib.Data.List.Forall2
import NamedParams.Proofs.Construction.Verdict
import NamedParams.Proofs.Equality

/-! Constructing a parameter from its own declaration gives the parameter again. -/

namespace NamedParams

open Log (Gate Traced)

namespace Definition

variable {d : Definition}

/-- What a declaration can lead to: filled slots are legal for the type, and what they hold would
be accepted again. -/
structure Valid (d : Definition) : Prop where
  legal : ∀ a, d.slots.isFilled a = true → a ∈ Attribute.legal d.type
  stable : ∀ a content, d.slots.content? a = some content → a.check content.toRaw = .ok content

/-- The declaration of a definition binds the type and the filled slots. -/
theorem mem_toMapping {entry : String × Raw} (member : entry ∈ d.toMapping.entries) :
    entry = (typeKey, .string d.type.name) ∨
      ∃ a content, d.slots.content? a = some content ∧ entry = (a.name, content.toRaw) :=
  -- The type is bound in front of what the slots hold.
  (Entries.mem_insert member).imp_right Slots.mem_toMapping.1

/-- The entry of a filled slot is in the declaration of the definition. -/
theorem mem_toMapping_of_content {a : Attribute} {content : Content}
    (filled : d.slots.content? a = some content) :
    (a.name, content.toRaw) ∈ d.toMapping.entries := by
  -- The key of the type is no canonical key, so binding it overwrites no slot.
  refine Entries.mem_insert_of_ne (Slots.mem_toMapping.2 ⟨a, content, filled, rfl⟩) fun same => ?_
  exact Attribute.typeKey_not_mem_spellings a (same ▸ a.name_mem_spellings)

/-- An entry of the declaration that spells an attribute holds the content of its slot. -/
theorem content_of_mem_toMapping {entry : String × Raw} {a : Attribute}
    (member : entry ∈ d.toMapping.entries) (spelled : entry.1 ∈ a.spellings) :
    ∃ content, d.slots.content? a = some content ∧ entry.2 = content.toRaw := by
  -- The entry is not that of the type, and its key spells no other attribute.
  rcases mem_toMapping member with rfl | ⟨b, content, filled, rfl⟩
  · exact absurd spelled (Attribute.typeKey_not_mem_spellings a)
  · cases Attribute.eq_of_mem_spellings spelled b.name_mem_spellings
    exact ⟨content, filled, rfl⟩

/-- The declaration of a valid definition leads to the definition. -/
theorem Valid.verdict (valid : d.Valid) (s : Setting) (name : String) :
    Verdict s name d.toMapping (.ok (.single ⟨name, s.location, d⟩)) := by
  -- All three gates are passed, and the slots are the ones of the definition.
  have increasing := d.toMapping.increasing
  refine .built (.inl ?declares) ?applicable ?accepted ⟨fun a => ⟨?filled, ?declared⟩, ?held⟩
  case declares =>
    exact Entries.lookup_eq_some_of_mem increasing (Entries.mem_insert_self _ _ _)
  case applicable =>
    -- Besides the type, only filled attributes are declared, and these are legal.
    intro entry member faulty
    obtain ⟨notType, illegal⟩ := faulty
    rcases mem_toMapping member with rfl | ⟨a, content, filled, rfl⟩
    · exact notType rfl
    · have legal := valid.legal a (by simp [Slots.isFilled_eq, filled])
      exact illegal a legal a.name_mem_spellings
  case accepted =>
    -- A content that is read again is accepted again.
    intro entry member rejected
    obtain ⟨a, reason, spelled, refused⟩ := rejected
    obtain ⟨content, filled, value⟩ := content_of_mem_toMapping member spelled
    rw [value, valid.stable a content filled] at refused
    cases refused
  case filled =>
    intro filled
    rw [Slots.isFilled_eq] at filled
    obtain ⟨content, here⟩ := Option.isSome_iff_exists.1 filled
    exact ⟨_, mem_toMapping_of_content here, a.name_mem_spellings⟩
  case declared =>
    intro declared
    obtain ⟨entry, member, spelled⟩ := declared
    obtain ⟨content, filled, _⟩ := content_of_mem_toMapping member spelled
    simp [Slots.isFilled_eq, filled]
  case held =>
    -- Each attribute is declared under one key, so that key is its greatest spelling.
    intro a entry greatest
    obtain ⟨member, spelled, _⟩ := greatest
    obtain ⟨content, filled, value⟩ := content_of_mem_toMapping member spelled
    exact ⟨content, value ▸ valid.stable a content filled, filled⟩

end Definition

/-- What a mapping leads to is a valid definition under the given name and location. -/
theorem valid_of_verdict {s : Setting} {name : String} {mapping : Mapping} {p : TypedParameter}
    (verdict : Verdict s name mapping (.ok (.single p))) :
    p.definition.Valid ∧ p = ⟨name, s.location, p.definition⟩ := by
  -- Only a mapping that passes all the gates leads to a parameter.
  cases verdict with
  | @built type slots declares applicable accepted hold =>
    refine ⟨⟨fun a filled => ?_, fun a content here => ?_⟩, rfl⟩
    · -- The key that spells the attribute applies to the type.
      obtain ⟨entry, member, spelled⟩ := (hold.filled a).1 filled
      have notType : entry.1 ≠ typeKey := fun same =>
        Attribute.typeKey_not_mem_spellings a (same ▸ spelled)
      have applies := applicable entry member
      simp only [Inapplicable, not_and, not_forall, Classical.not_not] at applies
      obtain ⟨b, legal, other⟩ := applies notType
      exact Attribute.eq_of_mem_spellings other spelled ▸ legal
    · -- The content keeps the value that it was made of.
      have filled : slots.isFilled a = true := by simp [Slots.isFilled_eq, here]
      obtain ⟨entry, greatest⟩ :=
        Entries.exists_greatest mapping.increasing ((hold.filled a).1 filled)
      obtain ⟨content', checked, there⟩ := hold.held a entry greatest
      cases Option.some.inj (here.symm.trans there)
      exact Attribute.toRaw_of_check checked ▸ checked

namespace Setting

variable {s : Setting} {gate : Gate} {name : String}

/-- Alternatives are constructed exactly if each of them is, and then in their order. -/
theorem constructEach_eq_ok_iff {mappings : List Mapping} {ps : List TypedParameter} :
    (s.constructEach gate name mappings).value = .ok ps ↔
      List.Forall₂ (fun mapping p => (s.constructTyped gate name mapping).value = .ok p)
        mappings ps := by
  -- Induct over the alternatives: the first refusal is the result, whatever comes behind it.
  induction mappings generalizing ps with
  | nil => simp [constructEach, eq_comm]
  | cons mapping rest ih =>
    rw [constructEach, List.forall₂_cons_left_iff, Traced.value_bind]
    cases (s.constructTyped gate name mapping).value with
    | error refusal => simp
    | ok first =>
      rw [Traced.value_bind]
      -- Behind a parameter, the others decide.
      cases each : (s.constructEach gate name rest).value with
      | error refusal => simp [← ih, each]
      | ok others =>
        simp only [← ih, each, Traced.value_pure, Except.ok.injEq]
        constructor
        · intro all
          exact ⟨first, others, rfl, rfl, all.symm⟩
        · intro parts
          obtain ⟨_, _, rfl, rfl, rfl⟩ := parts
          rfl

/-- A list of alternatives is constructed exactly if each of them is. -/
theorem value_construct_alternatives {mappings : List Mapping} :
    (s.construct gate name (.alternatives mappings)).value =
      (s.constructEach gate name mappings).value.map (.multiple name s.location) := by
  -- What is logged before and after does not change the value.
  have value : (s.constructMultiple gate name mappings).value =
      (s.constructEach gate name mappings).value.map (.multiple name s.location) := by
    rw [constructMultiple, Traced.value_bind, Traced.value_bind]
    split <;> simp_all [Except.map]
  simp only [construct, Traced.value_bind, ← value]
  split <;> rfl

/-- A parameter of one type is constructed exactly if its verdict says so. -/
theorem constructTyped_eq_ok_iff {mapping : Mapping} {p : TypedParameter} :
    (s.constructTyped gate name mapping).value = .ok p ↔
      Verdict s name mapping (.ok (.single p)) := by
  simp [← constructTyped_eq_iff_verdict gate]

/-- A parameter of one type is constructed again from its own declaration. -/
theorem constructTyped_toMapping {first second : Setting} {gate gate' : Gate} {mapping : Mapping}
    {p : TypedParameter} (same : first.location = second.location)
    (built : (first.constructTyped gate name mapping).value = .ok p) :
    (second.constructTyped gate' name p.definition.toMapping).value = .ok p := by
  -- The first construction leaves a valid definition, which the second one is led to again.
  obtain ⟨valid, labels⟩ := valid_of_verdict (constructTyped_eq_ok_iff.1 built)
  have verdict := valid.verdict second name
  rw [← same, ← labels] at verdict
  exact constructTyped_eq_ok_iff.2 verdict

/-- Alternatives are constructed again from their own declarations. -/
theorem constructEach_toMapping {first second : Setting} {gate gate' : Gate}
    {mappings : List Mapping} {ps : List TypedParameter} (same : first.location = second.location)
    (built : (first.constructEach gate name mappings).value = .ok ps) :
    (second.constructEach gate' name (ps.map (·.definition.toMapping))).value = .ok ps := by
  -- Induct over the alternatives along with what each of them was constructed as.
  rw [constructEach_eq_ok_iff] at built ⊢
  induction built with
  | nil => exact .nil
  | cons head _ ih => exact .cons (constructTyped_toMapping same head) ih

/-- What is constructed from a declaration is constructed again from its own declaration. -/
theorem construct_toDeclaration_of_construct {first second : Setting} {gate gate' : Gate}
    {declaration : Declaration} {p : Parameter} (same : first.location = second.location)
    (built : (first.construct gate name declaration).value = .ok p) :
    (second.construct gate' name p.toDeclaration).value = .ok p := by
  -- A single parameter is declared by its mapping, and alternatives by a list of theirs.
  cases declaration with
  | single mapping =>
    simp only [value_construct_single, map_eq_ok] at built
    obtain ⟨typed, built, rfl⟩ := built
    simp only [Parameter.toDeclaration, value_construct_single,
      constructTyped_toMapping same built, Except.map]
  | alternatives mappings =>
    simp only [value_construct_alternatives, map_eq_ok] at built
    obtain ⟨ps, built, rfl⟩ := built
    simp only [Parameter.toDeclaration, value_construct_alternatives,
      constructEach_toMapping same built, Except.map, same]

end Setting

/-- A parameter is constructed again from its own declaration, at the same location and whatever the
preferences; as the result of a comparison, it equals itself exactly if no NaN occurs in it. -/
theorem construct_toDeclaration {first second : Setting} {gate gate' : Gate} {name : String}
    {declaration : Declaration} {p : Parameter} (same : first.location = second.location)
    (built : (first.construct gate name declaration).value = .ok p) :
    ∃ rebuilt, (second.construct gate' name p.toDeclaration).value = .ok rebuilt ∧ rebuilt = p ∧
      ((rebuilt == p) = true ↔ ¬ p.HoldsNaN) := by
  -- What is constructed again is the parameter itself, so only its values decide the comparison.
  exact ⟨p, Setting.construct_toDeclaration_of_construct same built, rfl, p.beq_self_iff⟩

/-- Alternatives of which one has no number as its default are constructed again, and yet the
comparison fails. -/
theorem construct_toDeclaration_of_nan :
    let first : Setting := ⟨.query, false, false, false⟩
    let second : Setting := ⟨.query, true, true, true⟩
    let nan : Raw := .float (0 / 0)
    let mapping : Mapping := ⟨[("default", nan)], List.pairwise_singleton _ _⟩
    let p : Parameter :=
      .multiple "p" .query [⟨"p", .query, .string, { Slots.empty with defaultValue := some nan }⟩]
    first.location = second.location ∧
      (first.construct none "p" (.alternatives [mapping])).value = .ok p ∧
      ∃ rebuilt, (second.construct none "p" p.toDeclaration).value = .ok rebuilt ∧ rebuilt = p ∧
        ((rebuilt == p) = true ↔ ¬ p.HoldsNaN) := by
  intro first second nan mapping p
  -- The default is kept as it is, although it does not equal itself.
  have built : (first.construct none "p" (.alternatives [mapping])).value = .ok p := rfl
  exact ⟨rfl, built, construct_toDeclaration rfl built⟩

end NamedParams
