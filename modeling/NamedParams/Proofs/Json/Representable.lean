import NamedParams.Declaration
import NamedParams.Proofs.Binary64
import NamedParams.Proofs.Entries
import NamedParams.Proofs.Json.Parts
import NamedParams.Proofs.Results

/-! Decoded values and declarations that are the same again once they have been written as JSON. -/

namespace NamedParams

namespace Raw

/-- A value that JSON represents as it is. -/
def Representable (value : Raw) : Prop := ofJson value.toJson = value

/-- An array is represented as it is exactly if all its items are. -/
theorem representable_array {items : List Raw} :
    Representable (.array items) ↔ ∀ item ∈ items, item.Representable := by
  -- What is read back is the array of what is read back of each item.
  rw [Representable, toJson_array, ofJson_array, List.map_map, Raw.array.injEq]
  exact map_eq_self_iff

/-- A mapping is represented as it is exactly if the values of all its entries are. -/
theorem representable_mapping {entries : List (String × Raw)} :
    Representable (.mapping entries) ↔ ∀ entry ∈ entries, entry.2.Representable := by
  -- What is read back has the same keys, each with what is read back of its value.
  rw [Representable, toJson_mapping, ofJson_object, List.map_map, Raw.mapping.injEq]
  exact Entries.map_eq_self_iff (f := fun value => ofJson value.toJson)

/-- A finite float is represented as it is. -/
theorem representable_float {x : Float} (finite : x.isFinite = true) :
    Representable (.float x) := by
  -- A finite float is written as it is, and a float among the numbers is read as it is.
  simp [Representable, toJson, floatToJson, finite, ofJson, ofNumber]

/-- An integer is represented as it is. -/
theorem representable_integer (n : Int64) : Representable (.integer n) := by
  -- Every signed integer lies below the range where integers become floats.
  have signed : n.toInt < 0x8000000000000000 := n.toInt_lt
  simp [Representable, toJson, ofJson, ofNumber, signed]

/-- A number that was decoded is represented as it is, also where an integer became a float. -/
theorem representable_ofNumber (n : Json.Number) : (ofNumber n).Representable := by
  cases n with
  | integer n inRange =>
    simp only [ofNumber]
    -- An integer beyond the signed range becomes a float, which is finite.
    split
    · exact representable_integer _
    · exact representable_float (Binary64.isFinite_toFloat _)
  | float x finite => exact representable_float finite

/-- A value that was decoded is represented as it is. -/
theorem representable_ofJson (json : Json) : (ofJson json).Representable := by
  -- Induct over the JSON value: only a number is not read into the value it looks like.
  induction json using Json.induction with
  | null | boolean | string => rfl
  | number n => exact representable_ofNumber n
  | array items ih =>
    rw [ofJson_array, representable_array]
    exact List.forall_mem_map.2 ih
  | object entries ih =>
    rw [ofJson_object, representable_mapping]
    exact List.forall_mem_map.2 ih

end Raw

/-- A mapping whose values JSON represents as they are. -/
def Mapping.Representable (m : Mapping) : Prop := ∀ entry ∈ m.entries, entry.2.Representable

/-- Ordered entries lead to the mapping that has them. -/
theorem Mapping.ofList_entries (m : Mapping) : ofList m.entries = m := by
  -- The entries of a mapping are in order already.
  have same := Entries.sort_eq_self m.increasing
  cases m
  simpa [ofList] using same

/-- The values of a mapping are among those that were given. -/
theorem Mapping.representable_ofList {entries : List (String × Raw)}
    (representable : ∀ entry ∈ entries, entry.2.Representable) : (ofList entries).Representable :=
  fun entry kept => representable entry (Entries.mem_of_mem_sort kept)

namespace Declaration

/-- The mappings of a declaration. -/
def mappings : Declaration → List Mapping
  | .single mapping => [mapping]
  | .alternatives mappings => mappings

/-- A declaration that JSON represents as it is: it lists some alternative if it lists any, and the
values in its mappings are represented as they are. -/
structure Representable (d : Declaration) : Prop where
  some_mapping : d.mappings ≠ []
  values : ∀ mapping ∈ d.mappings, mapping.Representable

/-- Alternatives that are read keep the values that were given. -/
theorem representable_of_readAlternatives {items : List Raw} {index : Nat} {mappings : List Mapping}
    (representable : ∀ item ∈ items, item.Representable)
    (read : readAlternatives index items = .ok mappings) :
    mappings.length = items.length ∧ ∀ mapping ∈ mappings, mapping.Representable := by
  -- Follow the reading: it succeeds on mappings only, and adds one alternative for each.
  fun_induction readAlternatives index items generalizing mappings with
  | case1 =>
    cases read
    exact ⟨rfl, nofun⟩
  | case2 index entries rest others own ih =>
    cases read
    obtain ⟨first, later⟩ := List.forall_mem_cons.1 representable
    obtain ⟨length, values⟩ := ih later own
    exact ⟨congrArg (· + 1) length, List.forall_mem_cons.2
      ⟨Mapping.representable_ofList (Raw.representable_mapping.1 first), values⟩⟩
  | case3 => cases read
  | case4 => cases read

/-- Mappings are read again as the alternatives that they are. -/
theorem readAlternatives_toRaw (index : Nat) (mappings : List Mapping) :
    readAlternatives index (mappings.map Mapping.toRaw) = .ok mappings := by
  -- Each mapping is read as itself, whatever its index.
  induction mappings generalizing index with
  | nil => rfl
  | cons mapping rest ih => simp [Mapping.toRaw, readAlternatives, ih, Mapping.ofList_entries]

/-- A declaration that was read from JSON is represented as it is. -/
theorem representable_of_ofJson {json : Json} {d : Declaration} (read : ofJson json = .ok d) :
    d.Representable := by
  have representable := Raw.representable_ofJson json
  unfold ofJson ofRaw at read
  -- A declaration is read from one mapping, or from a list that is not empty.
  split at read
  · rename_i entries given
    cases read
    rw [given] at representable
    exact ⟨List.cons_ne_nil _ _, List.forall_mem_singleton.2
      (Mapping.representable_ofList (Raw.representable_mapping.1 representable))⟩
  · cases read
  · rename_i items some_item given
    rw [given] at representable
    obtain ⟨mappings, alternatives, rfl⟩ := map_eq_ok.1 read
    obtain ⟨length, values⟩ :=
      representable_of_readAlternatives (Raw.representable_array.1 representable) alternatives
    -- There are as many alternatives as there are items, and so at least one.
    refine ⟨fun none => some_item ?_, values⟩
    exact List.length_eq_zero_iff.1 (by rw [← length]; exact congrArg List.length none)
  · cases read

/-- A declaration that JSON represents as it is is read from what is written. -/
theorem Representable.ofJson_toJson {d : Declaration} (representable : d.Representable) :
    ofJson d.toJson = .ok d := by
  obtain ⟨some_mapping, values⟩ := representable
  cases d with
  | single mapping =>
    have same : Raw.ofJson mapping.toRaw.toJson = mapping.toRaw :=
      Raw.representable_mapping.2 (values mapping List.mem_cons_self)
    rw [ofJson, toJson, same]
    simp [Mapping.toRaw, ofRaw, Mapping.ofList_entries]
  | alternatives mappings =>
    -- The alternatives are written as an array of mappings.
    have written : toJson (.alternatives mappings) =
        (Raw.array (mappings.map Mapping.toRaw)).toJson := by
      simp [toJson, Function.comp_def]
    have same : (Raw.array (mappings.map Mapping.toRaw)).Representable :=
      Raw.representable_array.2 (List.forall_mem_map.2 fun mapping member =>
        Raw.representable_mapping.2 (values mapping member))
    rw [ofJson, written, same]
    -- There is an alternative, so they are read.
    cases mappings with
    | nil => exact absurd rfl some_mapping
    | cons mapping rest =>
      have read := readAlternatives_toRaw 0 (mapping :: rest)
      exact map_eq_ok.2 ⟨_, read, rfl⟩

end Declaration

end NamedParams
