import NamedParams.Proofs.Json.Conversion

/-! Which JSON values are read as declarations, and which declarations are read again from what is
written of them. -/

namespace NamedParams

/-- The kind of a JSON value; an integer beyond the signed range counts as a float. -/
def Json.kind : Json → Kind
  | .null => .null
  | .boolean _ => .boolean
  | .number (.integer n _) => if n < 0x8000000000000000 then .integer else .float
  | .number (.float _ _) => .float
  | .string _ => .string
  | .array _ => .array
  | .object _ => .mapping

/-- The mapping that the entries of an object stand for. -/
def Mapping.ofJson (entries : List (String × Json)) : Mapping :=
  ofList (entries.map fun entry => (entry.1, Raw.ofJson entry.2))

/-- A JSON value that declares a parameter: an object, or an array of at least one object and of
nothing else. -/
inductive Json.Declares : Json → Prop where
  | single (entries : List (String × Json)) : Declares (.object entries)
  | alternatives {objects : List (List (String × Json))} (some_object : objects ≠ []) :
    Declares (.array (objects.map .object))

/-- What a JSON value is read as: one mapping or the alternatives in their order, or else a fault,
which for an array is that of the first item that is no object. -/
inductive Declaration.Read : Json → Except DeclarationFault Declaration → Prop where
  | single (entries : List (String × Json)) :
    Read (.object entries) (.ok (.single (.ofJson entries)))
  | alternatives {objects : List (List (String × Json))} (some_object : objects ≠ []) :
    Read (.array (objects.map .object)) (.ok (.alternatives (objects.map Mapping.ofJson)))
  | alternativeNotMapping {before after : List Json} {item : Json}
    (objects : ∀ other ∈ before, other.kind = .mapping) (noObject : item.kind ≠ .mapping) :
    Read (.array (before ++ item :: after))
      (.error (.alternativeNotMapping before.length item.kind))
  | noAlternatives : Read (.array []) (.error .noAlternatives)
  | neither {json : Json} (noObject : json.kind ≠ .mapping) (noArray : json.kind ≠ .array) :
    Read json (.error (.neitherMappingNorSequence json.kind))

/-- A JSON value is read as a value of its kind. -/
@[simp] theorem Raw.kind_ofJson (json : Json) : (ofJson json).kind = json.kind := by
  -- Only the kind of a number depends on more than its constructor.
  cases json with
  | number n =>
    cases n with
    | integer n inRange =>
      rw [ofJson, ofNumber, Json.kind]
      -- The range is tested alike on both sides.
      split <;> rfl
    | float => rfl
  | array => rw [ofJson_array]; rfl
  | object => rw [ofJson_object]; rfl
  | _ => rfl

/-- Only an object is of the kind of mappings. -/
theorem Json.eq_object_of_kind {json : Json} (mapping : json.kind = .mapping) :
    ∃ entries, json = .object entries := by
  -- A number is an integer or a float, and every other constructor has a kind of its own.
  cases json with
  | number n => cases n <;> simp [kind] at mapping; split at mapping <;> cases mapping
  | object entries => exact ⟨entries, rfl⟩
  | _ => cases mapping

/-- Only an array is of the kind of arrays. -/
theorem Json.eq_array_of_kind {json : Json} (array : json.kind = .array) :
    ∃ items, json = .array items := by
  -- The cases are those of an object.
  cases json with
  | number n => cases n <;> simp [kind] at array; split at array <;> cases array
  | array items => exact ⟨items, rfl⟩
  | _ => cases array

/-- Values that are all of the kind of mappings are objects. -/
theorem Json.eq_map_object {items : List Json} (mappings : ∀ item ∈ items, item.kind = .mapping) :
    ∃ objects : List (List (String × Json)), items = objects.map .object := by
  -- Induct over the items: each of them is an object on its own.
  induction items with
  | nil => exact ⟨[], rfl⟩
  | cons item rest ih =>
    obtain ⟨first, later⟩ := List.forall_mem_cons.1 mappings
    obtain ⟨entries, rfl⟩ := eq_object_of_kind first
    obtain ⟨objects, rfl⟩ := ih later
    exact ⟨entries :: objects, rfl⟩

namespace Declaration

/-- A value that is no mapping is no alternative. -/
theorem readAlternatives_of_kind {index : Nat} {value : Raw} {rest : List Raw}
    (noMapping : value.kind ≠ .mapping) :
    readAlternatives index (value :: rest) = .error (.alternativeNotMapping index value.kind) := by
  -- Only the constructor of mappings is read on behind.
  cases value with
  | mapping => exact absurd rfl noMapping
  | _ => rfl

/-- A value that is neither a mapping nor an array is no declaration. -/
theorem ofRaw_of_kind {value : Raw} (noMapping : value.kind ≠ .mapping)
    (noArray : value.kind ≠ .array) :
    ofRaw value = .error (.neitherMappingNorSequence value.kind) := by
  -- Every constructor but the two that are excluded ends in this fault.
  cases value with
  | mapping => exact absurd rfl noMapping
  | array => exact absurd rfl noArray
  | _ => rfl

/-- Objects are read as the alternatives that they are, in their order. -/
theorem readAlternatives_objects (index : Nat) (objects : List (List (String × Json))) :
    readAlternatives index ((objects.map Json.object).map Raw.ofJson) =
      .ok (objects.map Mapping.ofJson) := by
  -- Each object adds its mapping in front, whatever the index.
  induction objects generalizing index with
  | nil => rfl
  | cons entries rest ih =>
    rw [List.map_cons, List.map_cons, Raw.ofJson_object, readAlternatives, ih]
    rfl

/-- Reading stops at the first value that is no object, and tells where it stands. -/
theorem readAlternatives_first {index : Nat} {before after : List Json} {item : Json}
    (objects : ∀ other ∈ before, other.kind = .mapping) (noObject : item.kind ≠ .mapping) :
    readAlternatives index ((before ++ item :: after).map Raw.ofJson) =
      .error (.alternativeNotMapping (index + before.length) item.kind) := by
  -- Induct over the values in front: each is an object and moves the index on.
  induction before generalizing index with
  | nil =>
    rw [← Raw.kind_ofJson] at noObject ⊢
    exact readAlternatives_of_kind noObject
  | cons first rest ih =>
    obtain ⟨here, later⟩ := List.forall_mem_cons.1 objects
    obtain ⟨entries, rfl⟩ := Json.eq_object_of_kind here
    rw [List.cons_append, List.map_cons, Raw.ofJson_object, readAlternatives, ih later,
      List.length_cons, Nat.add_assoc, Nat.add_comm 1]

/-- An array of some items is read item by item. -/
theorem ofJson_array {items : List Json} (some_item : items ≠ []) :
    ofJson (.array items) = (readAlternatives 0 (items.map Raw.ofJson)).map .alternatives := by
  rw [ofJson, Raw.ofJson_array]
  -- Only an array without items would end in a fault of its own.
  cases items with
  | nil => exact absurd rfl some_item
  | cons item rest => rfl

/-- A JSON value is read as described. -/
theorem ofJson_of_read {json : Json} {result : Except DeclarationFault Declaration}
    (read : Read json result) : ofJson json = result := by
  -- Values are described by their kinds, which reading keeps.
  cases read with
  | single entries =>
    rw [ofJson, Raw.ofJson_object]
    rfl
  | alternatives some_object =>
    rw [ofJson_array (by simpa using some_object), readAlternatives_objects]
    rfl
  | alternativeNotMapping objects noObject =>
    rw [ofJson_array (by simp), readAlternatives_first objects noObject, Nat.zero_add]
    rfl
  | noAlternatives => rfl
  | neither noObject noArray =>
    rw [← Raw.kind_ofJson] at noObject noArray ⊢
    exact ofRaw_of_kind noObject noArray

/-- Every JSON value is read as something that is described. -/
theorem exists_read (json : Json) : ∃ result, Read json result := by
  by_cases noArray : json.kind ≠ .array
  · by_cases noObject : json.kind ≠ .mapping
    · exact ⟨_, .neither noObject noArray⟩
    · obtain ⟨entries, rfl⟩ := Json.eq_object_of_kind (Classical.not_not.1 noObject)
      exact ⟨_, .single entries⟩
  · obtain ⟨items, rfl⟩ := Json.eq_array_of_kind (Classical.not_not.1 noArray)
    -- Either some item is the first that is no object, or all of them are objects.
    cases found : items.find? fun item => decide (item.kind ≠ .mapping) with
    | some item =>
      obtain ⟨noObject, before, after, rfl, objects⟩ := List.find?_eq_some_iff_append.1 found
      exact ⟨_, .alternativeNotMapping (by simpa using objects) (by simpa using noObject)⟩
    | none =>
      obtain ⟨objects, rfl⟩ := Json.eq_map_object (by simpa using found)
      by_cases some_object : objects = []
      · subst some_object
        exact ⟨_, .noAlternatives⟩
      · exact ⟨_, .alternatives some_object⟩

/-- A JSON value is read as a result exactly if it is described to be. -/
theorem ofJson_eq_iff {json : Json} {result : Except DeclarationFault Declaration} :
    ofJson json = result ↔ Read json result := by
  -- Some result is described of every value, and reading gives what is described.
  refine ⟨fun same => ?_, ofJson_of_read⟩
  obtain ⟨other, read⟩ := exists_read json
  exact same ▸ ofJson_of_read read ▸ read

/-- A declaration is read from a JSON value exactly if the value declares a parameter. -/
theorem exists_ofJson_eq_ok_iff {json : Json} :
    (∃ declaration, ofJson json = .ok declaration) ↔ json.Declares := by
  simp only [ofJson_eq_iff]
  -- Two of the ways to be read end in a declaration, and they are the two ways to declare.
  constructor
  · intro accepted
    obtain ⟨declaration, read⟩ := accepted
    cases read with
    | single entries => exact .single entries
    | alternatives some_object => exact .alternatives some_object
  · intro declares
    cases declares with
    | single entries => exact ⟨_, .single entries⟩
    | alternatives some_object => exact ⟨_, .alternatives some_object⟩

/-- A float that is NaN or infinite occurs in a value of one of the mappings of a declaration. -/
def HoldsNonFinite (d : Declaration) : Prop :=
  ∃ mapping ∈ d.mappings, ∃ entry ∈ mapping.entries, entry.2.HoldsNonFinite

/-- A declaration is read again from what is written of it exactly if it lists some alternative, if it
lists any, and no float in it is NaN or infinite. -/
theorem ofJson_toJson_eq_iff (d : Declaration) :
    ofJson d.toJson = .ok d ↔ d ≠ .alternatives [] ∧ ¬ d.HoldsNonFinite := by
  have some_mapping : d.mappings ≠ [] ↔ d ≠ .alternatives [] := by
    cases d <;> simp [mappings]
  have values : (∀ mapping ∈ d.mappings, mapping.Representable) ↔ ¬ d.HoldsNonFinite := by
    simp [HoldsNonFinite, Mapping.Representable, Raw.representable_iff]
  -- What was read is represented as it is, and what is represented as it is is read again.
  constructor
  · intro read
    obtain ⟨listed, kept⟩ := representable_of_ofJson read
    exact ⟨some_mapping.1 listed, values.1 kept⟩
  · intro kept
    obtain ⟨listed, finite⟩ := kept
    exact Representable.ofJson_toJson ⟨some_mapping.2 listed, values.2 finite⟩

end Declaration

/-- The entries of an object are kept one by one, since its keys increase. -/
theorem Mapping.entries_ofJson {entries : List (String × Json)}
    (increasing : Entries.Increasing entries) :
    (ofJson entries).entries = entries.map fun entry => (entry.1, Raw.ofJson entry.2) :=
  -- Entries whose keys increase are in order already.
  Entries.sort_eq_self (List.pairwise_map.2 increasing)

/-- Objects and arrays of at least one object are read as declarations, and every other JSON value
fails for what it is or for its first item that is no object. A declaration is read again from what is
written of it, unless it lists no alternative or a float in it is NaN or infinite. -/
theorem declaration_ofJson_eq_iff :
    (∀ json result, Declaration.ofJson json = result ↔ Declaration.Read json result) ∧
    (∀ json, (∃ declaration, Declaration.ofJson json = .ok declaration) ↔ json.Declares) ∧
    (∀ entries, Entries.Increasing entries →
      (Mapping.ofJson entries).entries = entries.map fun entry => (entry.1, Raw.ofJson entry.2)) ∧
    (∀ d : Declaration, Declaration.ofJson d.toJson = .ok d ↔
      d ≠ .alternatives [] ∧ ¬ d.HoldsNonFinite) ∧
    Declaration.ofJson (Declaration.alternatives []).toJson = .error .noAlternatives :=
  ⟨fun _ _ => Declaration.ofJson_eq_iff, fun _ => Declaration.exists_ofJson_eq_ok_iff,
    fun _ => Mapping.entries_ofJson, Declaration.ofJson_toJson_eq_iff, rfl⟩

/-- Two objects are read with all their entries, and between them an integer that is too large to be
kept as one is reported as a float. -/
theorem declaration_ofJson_of_large_integer :
    let entries : List (String × Json) := [("default", .null), ("type", .string "file")]
    let large : Json := .number (.integer 0x8000000000000000 (by decide))
    Entries.Increasing entries ∧
      (Mapping.ofJson entries).entries = [("default", .null), ("type", .string "file")] ∧
      Declaration.ofJson (.array [.object entries, .object []]) =
        .ok (.alternatives [.ofJson entries, .ofJson []]) ∧
      Declaration.ofJson (.array [.object entries, large, .object []]) =
        .error (.alternativeNotMapping 1 .float) := by
  intro entries large
  have increasing : Entries.Increasing entries := by unfold Entries.Increasing; decide
  obtain ⟨read, _, kept, _⟩ := declaration_ofJson_eq_iff
  -- One object stands in front of the number, so this is the item with index one.
  have objects : ∀ other ∈ [Json.object entries], other.kind = .mapping := by simp [Json.kind]
  refine ⟨increasing, kept entries increasing, (read _ _).2 ?_, (read _ _).2 ?_⟩
  · exact .alternatives (List.cons_ne_nil entries [[]])
  · show Declaration.Read (.array ([.object entries] ++ large :: [.object []])) _
    exact .alternativeNotMapping objects (by decide)

end NamedParams
