import NamedParams.Proofs.Construction.Rebuild

/-! A list of alternatives is constructed element by element. -/

namespace NamedParams

open Log (Gate Traced)

namespace Setting

variable {s : Setting} {gate : Gate} {name : String}

/-- Alternatives are refused for the first one, or for another one if the first one is built. -/
theorem constructEach_cons_eq_error_iff {mapping : Mapping} {rest : List Mapping}
    {refusal : Refusal} :
    (s.constructEach gate name (mapping :: rest)).value = .error refusal ↔
      (s.constructTyped gate name mapping).value = .error refusal ∨
        (∃ p, (s.constructTyped gate name mapping).value = .ok p) ∧
          (s.constructEach gate name rest).value = .error refusal := by
  -- The rest is only taken up where the first mapping has been built.
  rw [constructEach, Traced.value_bind]
  cases first : (s.constructTyped gate name mapping).value with
  | error own => simp
  | ok p =>
    rw [Traced.value_bind]
    cases others : (s.constructEach gate name rest).value <;> simp

/-- Alternatives are refused exactly if one of them is and all those in front of it are not. -/
theorem constructEach_eq_error_iff {mappings : List Mapping} {refusal : Refusal} :
    (s.constructEach gate name mappings).value = .error refusal ↔
      ∃ before mapping after, mappings = before ++ mapping :: after ∧
        (∀ other ∈ before, ∃ p, (s.constructTyped gate name other).value = .ok p) ∧
        (s.constructTyped gate name mapping).value = .error refusal := by
  -- Induct over the alternatives: the first one is refused, or it is built and the rest decides.
  induction mappings with
  | nil => simp [constructEach]
  | cons mapping rest ih =>
    rw [constructEach_cons_eq_error_iff, ih]
    constructor
    · rintro (own | ⟨built, before, failing, after, rfl, others, fails⟩)
      · exact ⟨[], mapping, rest, rfl, by simp, own⟩
      · exact ⟨mapping :: before, failing, after, rfl, List.forall_mem_cons.2 ⟨built, others⟩, fails⟩
    · rintro ⟨before, failing, after, split, built, fails⟩
      cases before with
      | nil =>
        obtain ⟨rfl, rfl⟩ := List.cons.inj split
        exact .inl fails
      | cons head front =>
        -- The head is built, so the refusal is one of the rest.
        obtain ⟨rfl, rfl⟩ := List.cons.inj split
        obtain ⟨first, others⟩ := List.forall_mem_cons.1 built
        exact .inr ⟨first, front, failing, after, rfl, others, fails⟩

/-- A mapping alone is refused exactly as it is among alternatives. -/
theorem construct_single_eq_error_iff {mapping : Mapping} {refusal : Refusal} :
    (s.construct gate name (.single mapping)).value = .error refusal ↔
      (s.constructTyped gate name mapping).value = .error refusal := by
  rw [value_construct_single, map_eq_error]

/-- A mapping alone leads to a parameter of one type, which it also is among alternatives. -/
theorem construct_single_eq_ok_iff {mapping : Mapping} {p : Parameter} :
    (s.construct gate name (.single mapping)).value = .ok p ↔
      ∃ typed, (s.constructTyped gate name mapping).value = .ok typed ∧ .single typed = p := by
  rw [value_construct_single, map_eq_ok]

/-- A list of alternatives leads to a container of what each of them leads to. -/
theorem construct_alternatives_eq_ok_iff {mappings : List Mapping} {p : Parameter} :
    (s.construct gate name (.alternatives mappings)).value = .ok p ↔
      ∃ children, List.Forall₂ (fun mapping child =>
        (s.construct gate name (.single mapping)).value = .ok (.single child)) mappings children ∧
        .multiple name s.location children = p := by
  -- Building the list amounts to building each mapping, and each of them alone does too.
  simp [value_construct_alternatives, constructEach_eq_ok_iff, construct_single_eq_ok_iff]

/-- A list of alternatives is refused for its first alternative that is refused alone. -/
theorem construct_alternatives_eq_error_iff {mappings : List Mapping} {refusal : Refusal} :
    (s.construct gate name (.alternatives mappings)).value = .error refusal ↔
      ∃ before mapping after, mappings = before ++ mapping :: after ∧
        (∀ other ∈ before, ∃ p, (s.construct gate name (.single other)).value = .ok p) ∧
        (s.construct gate name (.single mapping)).value = .error refusal := by
  -- The list is refused where the first of its mappings is that would be refused alone.
  simp [value_construct_alternatives, constructEach_eq_error_iff, construct_single_eq_ok_iff,
    construct_single_eq_error_iff]

/-- An alternative is the first one that is refused alone, for the given reason. -/
def FirstRefused (s : Setting) (gate : Gate) (name : String) (mappings : List Mapping) (k : Nat)
    (refusal : Refusal) : Prop :=
  ∃ inside : k < mappings.length,
    (∀ i (before : i < k), ∃ p, (s.construct gate name (.single mappings[i])).value = .ok p) ∧
    (s.construct gate name (.single mappings[k])).value = .error refusal

/-- Whatever follows the first alternative that is refused, the list is refused for that one. -/
theorem FirstRefused.construct {mappings : List Mapping} {k : Nat} {refusal : Refusal}
    (first : s.FirstRefused gate name mappings k refusal) (others : List Mapping) :
    (s.construct gate name (.alternatives (mappings.take (k + 1) ++ others))).value =
      .error refusal := by
  -- The alternative stands behind all those that are built.
  obtain ⟨inside, built, refused⟩ := first
  refine construct_alternatives_eq_error_iff.2
    ⟨mappings.take k, mappings[k], others, ?_, fun other member => ?_, refused⟩
  · rw [List.take_succ_eq_append_getElem inside, List.append_assoc, List.singleton_append]
  · obtain ⟨i, before, rfl⟩ := List.mem_take_iff_getElem.1 member
    exact built i (by omega)

/-- A list that is refused has a first alternative that is refused. -/
theorem exists_firstRefused {mappings : List Mapping} {refusal : Refusal}
    (refused : (s.construct gate name (.alternatives mappings)).value = .error refusal) :
    ∃ k, s.FirstRefused gate name mappings k refusal := by
  -- Its index is the number of alternatives in front of it.
  obtain ⟨before, mapping, after, rfl, built, fails⟩ :=
    construct_alternatives_eq_error_iff.1 refused
  refine ⟨before.length, by simp, fun i front => ?_, by simpa using fails⟩
  rw [List.getElem_append_left front]
  exact built _ (List.getElem_mem front)

end Setting

/-- A list of alternatives is constructed exactly if each of them alone is, and then its children
are what each of them alone leads to; otherwise it is refused for the first one that is refused
alone, whatever follows that one. -/
theorem construct_alternatives_elementwise (s : Setting) (gate : Gate) (name : String)
    (mappings : List Mapping) :
    let alone (mapping : Mapping) := (s.construct gate name (.single mapping)).value
    let together (list : List Mapping) := (s.construct gate name (.alternatives list)).value
    ((∃ p, together mappings = .ok p) ↔
      ∀ i (inside : i < mappings.length), ∃ p, alone mappings[i] = .ok p) ∧
    (∀ p, together mappings = .ok p ↔ ∃ children, p = .multiple name s.location children ∧
      children.length = mappings.length ∧
      ∀ i (inside : i < mappings.length) (child : i < children.length),
        alone mappings[i] = .ok (.single children[i])) ∧
    (∀ refusal, together mappings = .error refusal ↔
      ∃ k, s.FirstRefused gate name mappings k refusal) ∧
    ∀ k refusal, s.FirstRefused gate name mappings k refusal →
      ∀ others, together (mappings.take (k + 1) ++ others) = .error refusal := by
  intro alone together
  -- The children are paired with the mappings by their indices.
  have succeeds (p : Parameter) : together mappings = .ok p ↔
      ∃ children, p = .multiple name s.location children ∧ children.length = mappings.length ∧
        ∀ i (inside : i < mappings.length) (child : i < children.length),
          alone mappings[i] = .ok (.single children[i]) := by
    simp only [together, alone, Setting.construct_alternatives_eq_ok_iff, List.forall₂_iff_get,
      List.get_eq_getElem]
    constructor
    · rintro ⟨children, ⟨length, same⟩, rfl⟩
      exact ⟨children, rfl, length.symm, same⟩
    · rintro ⟨children, rfl, length, same⟩
      exact ⟨children, ⟨length.symm, same⟩, rfl⟩
  -- Behind the first mapping that is refused, the rest of the list does not matter.
  have fails (refusal : Refusal) : together mappings = .error refusal ↔
      ∃ k, s.FirstRefused gate name mappings k refusal := by
    refine ⟨Setting.exists_firstRefused, fun ⟨k, first⟩ => ?_⟩
    have whole := first.construct (mappings.drop (k + 1))
    rwa [List.take_append_drop] at whole
  refine ⟨⟨fun ⟨p, built⟩ i inside => ?_, fun built => ?_⟩, succeeds, fails,
    fun k refusal first => first.construct⟩
  · obtain ⟨children, _, length, same⟩ := (succeeds p).1 built
    exact ⟨_, same i inside (by omega)⟩
  · -- Some alternative would be refused if the list were.
    cases result : together mappings with
    | ok p => exact ⟨p, rfl⟩
    | error refusal =>
      obtain ⟨k, inside, _, refused⟩ := (fails refusal).1 result
      obtain ⟨p, here⟩ := built k inside
      cases here.symm.trans refused

end NamedParams
