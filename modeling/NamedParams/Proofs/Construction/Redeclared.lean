import NamedParams.Proofs.Construction.Rebuild
import NamedParams.Proofs.Json.Representable

/-! Constructing parameters again from their declarations as they are written in JSON. -/

namespace NamedParams

open Log (Gate Traced)

/-- The declaration of what a mapping leads to keeps values of the mapping. -/
theorem representable_of_verdict {s : Setting} {name : String} {mapping : Mapping}
    {p : TypedParameter} (verdict : Verdict s name mapping (.ok (.single p)))
    (representable : mapping.Representable) : p.definition.toMapping.Representable := by
  cases verdict with
  | @built type slots declares applicable accepted hold =>
    intro entry member
    -- Besides its type, a declaration has the values that were checked.
    rcases Definition.mem_toMapping member with rfl | ⟨a, content, filled, rfl⟩
    · rfl
    · have declared := (hold.filled a).1 (by simp [Slots.isFilled_eq, filled])
      obtain ⟨given, greatest⟩ := Entries.exists_greatest mapping.increasing declared
      obtain ⟨held, checked, there⟩ := hold.held a given greatest
      cases Option.some.inj (filled.symm.trans there)
      rw [Attribute.toRaw_of_check checked]
      exact representable given greatest.1

namespace Setting

variable {s : Setting} {gate : Gate} {name : String}

/-- The declarations of what representable alternatives lead to are representable. -/
theorem representable_alternatives {mappings : List Mapping} {ps : List TypedParameter}
    (built : List.Forall₂ (fun mapping p => (s.constructTyped gate name mapping).value = .ok p)
      mappings ps)
    (values : ∀ mapping ∈ mappings, mapping.Representable) :
    ∀ p ∈ ps, p.definition.toMapping.Representable := by
  -- Every parameter is built from the mapping at its place.
  induction built with
  | nil => simp
  | cons head _ ih =>
    obtain ⟨first, later⟩ := List.forall_mem_cons.1 values
    exact List.forall_mem_cons.2
      ⟨representable_of_verdict (constructTyped_eq_ok_iff.1 head) first, ih later⟩

/-- The declaration of what a representable declaration leads to is representable. -/
theorem representable_toDeclaration {d : Declaration} {p : Parameter}
    (representable : d.Representable) (built : (s.construct gate name d).value = .ok p) :
    p.toDeclaration.Representable := by
  obtain ⟨some_mapping, values⟩ := representable
  cases d with
  | single mapping =>
    -- One mapping is declared again by one mapping.
    simp only [value_construct_single, map_eq_ok] at built
    obtain ⟨typed, built, rfl⟩ := built
    refine ⟨List.cons_ne_nil _ _, List.forall_mem_singleton.2 ?_⟩
    exact representable_of_verdict (constructTyped_eq_ok_iff.1 built)
      (values mapping List.mem_cons_self)
  | alternatives mappings =>
    simp only [value_construct_alternatives, map_eq_ok, constructEach_eq_ok_iff] at built
    obtain ⟨ps, built, rfl⟩ := built
    refine ⟨fun none => some_mapping ?_,
      List.forall_mem_map.2 (representable_alternatives built values)⟩
    -- There are as many alternatives as there are mappings.
    have length := built.length_eq
    rw [List.map_eq_nil_iff.1 none] at length
    exact List.length_eq_zero_iff.1 length

/-- What a JSON value leads to is decided by the declaration that it stands for. -/
theorem value_constructJson (json : Json) :
    (s.constructJson gate name json).value =
      match Declaration.ofJson json with
      | .error fault => .error (.malformed name fault)
      | .ok declaration => (s.construct gate name declaration).value.mapError .refused := by
  unfold constructJson
  cases Declaration.ofJson json <;> rfl

/-- A JSON value leads to a failure where it is no declaration or a refused one. -/
theorem constructJson_eq_error_iff {json : Json} {failure : Failure} :
    (s.constructJson gate name json).value = .error failure ↔
      (∃ fault, Declaration.ofJson json = .error fault ∧ .malformed name fault = failure) ∨
      ∃ declaration, Declaration.ofJson json = .ok declaration ∧
        ∃ refusal, (s.construct gate name declaration).value = .error refusal ∧
          .refused refusal = failure := by
  -- Decoding fails first, and what it leaves is refused or built.
  rw [value_constructJson]
  cases Declaration.ofJson json with
  | error fault => simp
  | ok declaration =>
    cases result : (s.construct gate name declaration).value <;> simp [result, Except.mapError]

/-- What a JSON value leads to is constructed again from its own declaration as JSON. -/
theorem constructJson_toJson {first second : Setting} {gate gate' : Gate} {json : Json}
    {p : Parameter} (same : first.location = second.location)
    (built : (first.constructJson gate name json).value = .ok p) :
    (second.constructJson gate' name p.toDeclaration.toJson).value = .ok p := by
  -- The declaration of a parameter is written and read again without loss, and rebuilds it.
  rw [value_constructJson] at built ⊢
  cases read : Declaration.ofJson json with
  | error fault => simp [read] at built
  | ok declaration =>
    have built : (first.construct gate name declaration).value = .ok p := by
      simp only [read] at built
      cases result : (first.construct gate name declaration).value with
      | error refusal => simp [result, Except.mapError] at built
      | ok q => simpa [result, Except.mapError] using built
    have representable :=
      representable_toDeclaration (Declaration.representable_of_ofJson read) built
    simp [representable.ofJson_toJson, construct_toDeclaration_of_construct same built,
      Except.mapError]

end Setting

end NamedParams
