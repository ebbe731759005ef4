import NamedParams.Proofs.Construction.Redeclared

/-! What every parameter satisfies that a construction leads to. -/

namespace NamedParams

open Log (Gate)

/-- The alternatives of a parameter, as parameters of their own. -/
def Parameter.children (p : Parameter) : List Parameter := p.alternatives.map .single

/-- The attributes of a parameter fit its type, its declaration has one key for each of them, and
their values are within the limits. -/
structure Parameter.Consistent (p : Parameter) : Prop where
  legal : ∀ a ∈ p.slots.filled, ∃ type, p.type? = some type ∧ a ∈ Attribute.legal type
  keys : ∀ mapping, p.toDeclaration = .single mapping →
    (mapping.entries.map Prod.fst).Perm (typeKey :: p.slots.filled.map Attribute.name)
  choices : ∀ list, p.slots.choices = some list → 1 ≤ list.length ∧ list.length ≤ 10000
  pattern : ∀ q, p.slots.pattern = some q →
    q.source.utf8ByteSize ≤ 4096 ∧ q.pinned = Anchors.pin q.source ∧
      Regex.compile q.pinned patternSizeLimit = .ok q.expr

/-- A parameter of a name and a location: it is consistent, its children are consistent parameters
of one type with the same labels, and it is declared by the declarations of its children. -/
structure Parameter.WellFormed (name : String) (location : Location) (p : Parameter) : Prop where
  named : p.name = name
  located : p.location = location
  consistent : p.Consistent
  children : ∀ child ∈ p.children, child.Consistent ∧ child.hasAlternatives = false ∧
    child.name = name ∧ child.location = location
  declared : p.hasAlternatives = true → ∃ mappings, p.toDeclaration = .alternatives mappings ∧
    List.Forall₂ (fun child mapping => child.toDeclaration = .single mapping) p.children mappings

/-- Attributes have different canonical keys. -/
theorem Attribute.eq_of_name_eq {a b : Attribute} (same : a.name = b.name) : a = b :=
  -- A name is a spelling, and no key spells two attributes.
  eq_of_mem_spellings a.name_mem_spellings (same ▸ b.name_mem_spellings)

/-- No key of a mapping occurs twice. -/
theorem Mapping.nodup_keys (m : Mapping) : (m.entries.map Prod.fst).Nodup :=
  -- Keys that increase are distinct.
  List.pairwise_map.2 (m.increasing.imp fun below => String.ne_of_lt below)

/-- The keys of a declaration are that of the type and those of the filled slots. -/
theorem Definition.perm_keys (d : Definition) :
    (d.toMapping.entries.map Prod.fst).Perm (typeKey :: d.slots.filled.map Attribute.name) := by
  -- Neither list has a key twice, so it is enough that they have the same keys.
  have distinct : (typeKey :: d.slots.filled.map Attribute.name).Nodup := by
    refine List.nodup_cons.2 ⟨fun member => ?_, ?_⟩
    · obtain ⟨a, _, same⟩ := List.mem_map.1 member
      exact a.typeKey_not_mem_spellings (same ▸ a.name_mem_spellings)
    · exact d.slots.nodup_filled.map fun _ _ => Attribute.eq_of_name_eq
  refine (List.perm_ext_iff_of_nodup d.toMapping.nodup_keys distinct).2 fun key => ?_
  rw [List.mem_map, List.mem_cons, List.mem_map]
  -- The keys are that of the type and those of the filled attributes.
  constructor
  · rintro ⟨entry, member, rfl⟩
    rcases mem_toMapping member with rfl | ⟨a, content, here, rfl⟩
    · exact .inl rfl
    · exact .inr ⟨a, Slots.mem_filled.2 (by simp [Slots.isFilled_eq, here]), rfl⟩
  · rintro (rfl | ⟨a, member, rfl⟩)
    · exact ⟨_, Entries.mem_insert_self _ _ _, rfl⟩
    · have filled := Slots.mem_filled.1 member
      rw [Slots.isFilled_eq] at filled
      obtain ⟨content, here⟩ := Option.isSome_iff_exists.1 filled
      exact ⟨_, mem_toMapping_of_content here, rfl⟩

/-- A parameter of one type is consistent if its definition is valid. -/
theorem Definition.Valid.consistent {p : TypedParameter} (valid : p.definition.Valid) :
    (Parameter.single p).Consistent := by
  refine ⟨fun a member => ?legal, fun mapping declared => ?keys, fun list here => ?choices,
    fun q here => ?pattern⟩
  case legal => exact ⟨_, rfl, valid.legal a (Slots.mem_filled.1 member)⟩
  case keys =>
    cases declared
    exact p.definition.perm_keys
  case choices =>
    -- The members would be accepted again, so there are neither none nor too many.
    have filled : p.definition.slots.content? .choices = some (.choices list) :=
      congrArg (Option.map Content.choices) here
    obtain ⟨again, read, same⟩ := map_eq_ok.1 (valid.stable _ _ filled)
    cases same
    obtain ⟨_, some_member, few⟩ := Raw.asChoices_eq_ok.1 read
    exact ⟨List.length_pos_of_ne_nil some_member, few⟩
  case pattern =>
    -- The source would be compiled to the same pattern again.
    have filled : p.definition.slots.content? .pattern = some (.pattern q) :=
      congrArg (Option.map Content.pattern) here
    obtain ⟨again, read, same⟩ := map_eq_ok.1 (valid.stable _ _ filled)
    cases same
    obtain ⟨source, _, compiled⟩ := Raw.asPattern_eq_ok.1 read
    obtain ⟨short, expr, meaning, made⟩ := Pattern.compile_eq_ok.1 compiled
    rw [made]
    exact ⟨short, rfl, meaning⟩

/-- A container has no attributes of its own. -/
theorem Parameter.consistent_multiple (name : String) (location : Location)
    (alternatives : List TypedParameter) : (Parameter.multiple name location alternatives).Consistent :=
  -- A parameter with alternatives has no slots of its own.
  ⟨fun _ member => absurd member List.not_mem_nil, nofun, nofun, nofun⟩

namespace Setting

variable {s : Setting} {gate : Gate} {name : String}

/-- A mapping leads to a valid definition under the labels of the construction. -/
theorem valid_of_constructTyped {mapping : Mapping} {p : TypedParameter}
    (built : (s.constructTyped gate name mapping).value = .ok p) :
    p.definition.Valid ∧ p.name = name ∧ p.location = s.location := by
  -- A parameter that is built has a verdict, and the verdict says what its slots hold.
  obtain ⟨valid, labels⟩ := valid_of_verdict (constructTyped_eq_ok_iff.1 built)
  exact ⟨valid, congrArg TypedParameter.name labels, congrArg TypedParameter.location labels⟩

/-- Alternatives lead to valid definitions under the labels of the construction. -/
theorem valid_of_constructEach {mappings : List Mapping} {ps : List TypedParameter}
    (built : (s.constructEach gate name mappings).value = .ok ps) :
    ∀ p ∈ ps, p.definition.Valid ∧ p.name = name ∧ p.location = s.location := by
  -- Every parameter is built from the mapping at its place.
  rw [constructEach_eq_ok_iff] at built
  induction built with
  | nil => exact fun _ member => absurd member List.not_mem_nil
  | cons head _ ih => exact List.forall_mem_cons.2 ⟨valid_of_constructTyped head, ih⟩

/-- A declaration leads to a well-formed parameter, with one child for each alternative. -/
theorem wellFormed_of_construct {declaration : Declaration} {p : Parameter}
    (built : (s.construct gate name declaration).value = .ok p) :
    p.WellFormed name s.location ∧
      (p.hasAlternatives = true → p.children.length = declaration.mappings.length) := by
  cases declaration with
  | single mapping =>
    rw [value_construct_single, map_eq_ok] at built
    obtain ⟨typed, built, rfl⟩ := built
    obtain ⟨valid, named, located⟩ := valid_of_constructTyped built
    -- A parameter of one type has no children.
    have alone : (Parameter.single typed).hasAlternatives ≠ true := Bool.false_ne_true
    exact ⟨⟨named, located, valid.consistent, fun _ member => absurd member List.not_mem_nil,
      fun multiple => absurd multiple alone⟩, fun multiple => absurd multiple alone⟩
  | alternatives mappings =>
    rw [value_construct_alternatives, map_eq_ok] at built
    obtain ⟨ps, built, rfl⟩ := built
    have children : ∀ child ∈ (Parameter.multiple name s.location ps).children,
        child.Consistent ∧ child.hasAlternatives = false ∧ child.name = name ∧
          child.location = s.location := by
      intro child member
      obtain ⟨typed, inside, rfl⟩ := List.mem_map.1 member
      obtain ⟨valid, named, located⟩ := valid_of_constructEach built typed inside
      exact ⟨valid.consistent, rfl, named, located⟩
    -- Children and their declarations stand at the same places.
    have declared : List.Forall₂ (fun child mapping => child.toDeclaration = .single mapping)
        (Parameter.multiple name s.location ps).children (ps.map (·.definition.toMapping)) := by
      rw [Parameter.children, List.forall₂_map_left_iff, List.forall₂_map_right_iff]
      exact List.forall₂_same.2 fun _ _ => rfl
    refine ⟨⟨rfl, rfl, Parameter.consistent_multiple _ _ _, children, fun _ => ⟨_, rfl, declared⟩⟩,
      fun _ => ?_⟩
    rw [Parameter.children, List.length_map]
    exact (constructEach_eq_ok_iff.1 built).length_eq.symm

/-- A JSON value leads to what the declaration leads to that it stands for. -/
theorem constructJson_eq_ok_iff {json : Json} {p : Parameter} :
    (s.constructJson gate name json).value = .ok p ↔
      ∃ declaration, Declaration.ofJson json = .ok declaration ∧
        (s.construct gate name declaration).value = .ok p := by
  -- A parameter comes of a value that is a declaration and is not refused.
  rw [value_constructJson]
  cases Declaration.ofJson json with
  | error fault => simp
  | ok declaration =>
    cases result : (s.construct gate name declaration).value <;> simp [result, Except.mapError]

end Setting

/-- Whatever is constructed, from a declaration or from JSON, is a well-formed parameter of the
given name and of the location of the construction. From JSON, a container has some child. -/
theorem wellFormed_of_constructed (s : Setting) (gate : Gate) (name : String) :
    (∀ declaration p, (s.construct gate name declaration).value = .ok p →
      p.WellFormed name s.location) ∧
    ∀ json p, (s.constructJson gate name json).value = .ok p →
      p.WellFormed name s.location ∧ (p.hasAlternatives = true → p.children ≠ []) := by
  refine ⟨fun declaration p built => (Setting.wellFormed_of_construct built).1,
    fun json p built => ?_⟩
  obtain ⟨declaration, read, built⟩ := Setting.constructJson_eq_ok_iff.1 built
  obtain ⟨wellFormed, count⟩ := Setting.wellFormed_of_construct built
  refine ⟨wellFormed, fun multiple none => ?_⟩
  -- What is read from JSON lists some mapping.
  have mappings := (Declaration.representable_of_ofJson read).some_mapping
  have length := count multiple
  rw [none] at length
  exact mappings (List.length_eq_zero_iff.1 length.symm)

/-- A mapping with both spellings of an attribute, a choice and a pattern leads to a well-formed
alternative, and so do two mappings that are read from JSON. -/
theorem wellFormed_of_two_spellings :
    let s : Setting := ⟨.query, true, true, true⟩
    let mapping : Mapping := ⟨[("displayName", .string "a"), ("display_name", .string "b"),
      ("enum", .array [.string "r", .string "r"]), ("pattern", .string "^r$")],
      by unfold Entries.Increasing; decide⟩
    let json : Json := .array [.object [], .object [("repeat", .boolean true)]]
    (∃ p, (s.construct none "p" (.alternatives [mapping])).value = .ok p ∧
      p.WellFormed "p" .query) ∧
    ∃ p, (s.constructJson none "p" json).value = .ok p ∧ p.WellFormed "p" .query ∧
      (p.hasAlternatives = true → p.children ≠ []) := by
  intro s mapping json
  -- The first declaration has both spellings of a name, the second a list with an empty object.
  have declared : (s.construct none "p" (.alternatives [mapping])).value.toBool = true := by
    decide +kernel
  have read : (s.constructJson none "p" json).value.toBool = true := by cbv
  obtain ⟨p, built⟩ := exists_eq_ok declared
  obtain ⟨q, built'⟩ := exists_eq_ok read
  exact ⟨⟨p, built, (wellFormed_of_constructed s none "p").1 _ p built⟩,
    q, built', (wellFormed_of_constructed s none "p").2 json q built'⟩

end NamedParams
