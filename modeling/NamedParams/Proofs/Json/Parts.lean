import NamedParams.Raw

/-! The parts of decoded values and of JSON values, which correspond when one is turned into the
other. -/

namespace NamedParams

/-- Where the values of entries change and the keys do not, a key looks up the changed value. -/
theorem Entries.lookup_map {α β : Type} (f : α → β) (key : String) (entries : List (String × α)) :
    (entries.map fun entry => (entry.1, f entry.2)).lookup key = (entries.lookup key).map f := by
  -- Induct over the entries: each has the key that it had, so the lookup stops at the same one.
  induction entries with
  | nil => rfl
  | cons entry rest ih =>
    rw [List.map_cons, List.lookup_cons, List.lookup_cons, ih]
    cases key == entry.1 <;> rfl

/-- A function leaves a list as it is exactly if it leaves each member as it is. -/
theorem map_eq_self_iff {α : Type} {f : α → α} {list : List α} :
    list.map f = list ↔ ∀ a ∈ list, f a = a := by
  -- A list is its own image under the identity.
  simpa using List.map_inj_left (l := list) (f := f) (g := id)

/-- A change of the values leaves entries as they are exactly if it leaves each value as it is. -/
theorem Entries.map_eq_self_iff {α : Type} {f : α → α} {entries : List (String × α)} :
    (entries.map fun entry => (entry.1, f entry.2)) = entries ↔
      ∀ entry ∈ entries, f entry.2 = entry.2 := by
  rw [NamedParams.map_eq_self_iff]
  -- An entry keeps its key, so it stays as it is if its value does.
  refine forall₂_congr fun entry member => ?_
  rw [Prod.ext_iff]
  exact and_iff_right rfl

/-- A function that goes through a list member by member maps the list. -/
theorem eq_map {α β : Type} {f : α → β} {all : List α → List β} (nil : all [] = [])
    (cons : ∀ a rest, all (a :: rest) = f a :: all rest) (list : List α) :
    all list = list.map f := by
  -- Induct over the list: the two equations are those of a map.
  induction list with
  | nil => exact nil
  | cons a rest ih => rw [cons, ih, List.map_cons]

/-- Lists are compared member by member. -/
structure Memberwise {α : Type} (same : α → α → Bool) (all : List α → List α → Bool) : Prop where
  nil : all [] [] = true
  cons : ∀ a b rest others, all (a :: rest) (b :: others) = (same a b && all rest others)

namespace Memberwise

variable {α : Type} {same : α → α → Bool}

/-- Members that are changed one by one are as before exactly if each of them is. -/
theorem map_iff {all : List α → List α → Bool} (memberwise : Memberwise same all) {f : α → α}
    {list : List α} : all (list.map f) list = true ↔ ∀ a ∈ list, same (f a) a = true := by
  -- Induct over the list, which the comparison takes apart on both sides alike.
  induction list with
  | nil => simp [memberwise.nil]
  | cons a rest ih => simp [memberwise.cons, ih]

/-- A list is the same as itself exactly if each of its members is. -/
theorem self_iff {all : List α → List α → Bool} (memberwise : Memberwise same all)
    {list : List α} : all list list = true ↔ ∀ a ∈ list, same a a = true := by
  -- Nothing is changed by the identity.
  simpa using memberwise.map_iff (f := id)

/-- Entries whose values are changed one by one are as before exactly if each value is. -/
theorem entries_map_iff {all : List (String × α) → List (String × α) → Bool}
    (memberwise : Memberwise (fun left right => left.1 == right.1 && same left.2 right.2) all)
    {f : α → α} {entries : List (String × α)} :
    all (entries.map fun entry => (entry.1, f entry.2)) entries = true ↔
      ∀ entry ∈ entries, same (f entry.2) entry.2 = true := by
  -- The keys are kept, so only the values could differ.
  simpa using memberwise.map_iff (f := fun entry => (entry.1, f entry.2))

end Memberwise

/-- A value is smaller than the entries that it is in. -/
theorem sizeOf_lt_of_mem_entries {α : Type} [SizeOf α] {entries : List (String × α)}
    {entry : String × α} (member : entry ∈ entries) : sizeOf entry.2 < sizeOf entries := by
  -- A value is smaller than its entry, which is smaller than the list.
  have smaller := List.sizeOf_lt_of_mem member
  obtain ⟨key, value⟩ := entry
  simp only [Prod.mk.sizeOf_spec] at smaller ⊢
  omega

/-- What holds of simple values, of an array if it holds of the items, and of a mapping if it holds of
the values in it, holds of every value. -/
@[elab_as_elim]
theorem Raw.induction {motive : Raw → Prop} (null : motive .null)
    (boolean : ∀ b, motive (.boolean b)) (integer : ∀ n, motive (.integer n))
    (float : ∀ x, motive (.float x)) (string : ∀ s, motive (.string s))
    (array : ∀ items, (∀ item ∈ items, motive item) → motive (.array items))
    (mapping : ∀ entries, (∀ entry ∈ entries, motive entry.2) → motive (.mapping entries))
    (value : Raw) : motive value := by
  -- Recurse on the value: the items and the entries of a value are smaller than the value.
  cases value with
  | null => exact null
  | boolean b => exact boolean b
  | integer n => exact integer n
  | float x => exact float x
  | string s => exact string s
  | array items =>
    exact array items fun item _ => induction null boolean integer float string array mapping item
  | mapping entries =>
    exact mapping entries fun entry _ =>
      induction null boolean integer float string array mapping entry.2
termination_by sizeOf value
-- Items and the values of entries are smaller than what they are in.
decreasing_by
  · rename_i member
    have smaller := List.sizeOf_lt_of_mem member
    rw [Raw.array.sizeOf_spec]
    omega
  · rename_i member
    have smaller := sizeOf_lt_of_mem_entries member
    rw [Raw.mapping.sizeOf_spec]
    omega

/-- What holds of simple JSON values, of an array if it holds of the items, and of an object if it
holds of the values in it, holds of every JSON value. -/
@[elab_as_elim]
theorem Json.induction {motive : Json → Prop} (null : motive .null)
    (boolean : ∀ b, motive (.boolean b)) (number : ∀ n, motive (.number n))
    (string : ∀ s, motive (.string s))
    (array : ∀ items, (∀ item ∈ items, motive item) → motive (.array items))
    (object : ∀ entries, (∀ entry ∈ entries, motive entry.2) → motive (.object entries))
    (json : Json) : motive json := by
  -- Recurse on the value: the items and the entries of a value are smaller than the value.
  cases json with
  | null => exact null
  | boolean b => exact boolean b
  | number n => exact number n
  | string s => exact string s
  | array items =>
    exact array items fun item _ => induction null boolean number string array object item
  | object entries =>
    exact object entries fun entry _ => induction null boolean number string array object entry.2
termination_by sizeOf json
-- Items and the values of entries are smaller than what they are in.
decreasing_by
  · rename_i member
    have smaller := List.sizeOf_lt_of_mem member
    rw [Json.array.sizeOf_spec]
    omega
  · rename_i member
    have smaller := sizeOf_lt_of_mem_entries member
    rw [Json.object.sizeOf_spec]
    omega

/-- A float with a property occurs in a value, at whatever depth. -/
inductive Raw.HoldsFloat (property : Float → Prop) : Raw → Prop where
  | float {x : Float} (has : property x) : HoldsFloat property (.float x)
  | item {items : List Raw} {item : Raw} (member : item ∈ items)
    (holds : HoldsFloat property item) : HoldsFloat property (.array items)
  | entry {entries : List (String × Raw)} {entry : String × Raw} (member : entry ∈ entries)
    (holds : HoldsFloat property entry.2) : HoldsFloat property (.mapping entries)

namespace Raw

variable {property : Float → Prop}

/-- Such a float occurs in a float exactly if the float is one. -/
theorem holdsFloat_float {x : Float} : HoldsFloat property (.float x) ↔ property x := by
  constructor
  · intro within
    cases within with
    | float has => exact has
  · exact .float

/-- Such a float occurs in an array exactly if it occurs in an item. -/
theorem holdsFloat_array {items : List Raw} :
    HoldsFloat property (.array items) ↔ ∃ item ∈ items, item.HoldsFloat property := by
  constructor
  · intro within
    cases within with
    | item member holds => exact ⟨_, member, holds⟩
  · intro among
    obtain ⟨item, member, holds⟩ := among
    exact .item member holds

/-- Such a float occurs in a mapping exactly if it occurs in the value of an entry. -/
theorem holdsFloat_mapping {entries : List (String × Raw)} :
    HoldsFloat property (.mapping entries) ↔ ∃ entry ∈ entries, entry.2.HoldsFloat property := by
  constructor
  · intro within
    cases within with
    | entry member holds => exact ⟨_, member, holds⟩
  · intro among
    obtain ⟨entry, member, holds⟩ := among
    exact .entry member holds

/-- Arrays are compared item by item. -/
theorem memberwise_items : Memberwise beq beqItems := ⟨rfl, fun _ _ _ _ => rfl⟩

/-- Mappings are compared entry by entry, by the keys and the values. -/
theorem memberwise_entries :
    Memberwise (fun left right => left.1 == right.1 && beq left.2 right.2) beqEntries :=
  ⟨rfl, fun _ _ _ _ => rfl⟩

end Raw

/-- A number with a property occurs in a JSON value, at whatever depth. -/
inductive Json.HoldsNumber (property : Json.Number → Prop) : Json → Prop where
  | number {n : Json.Number} (has : property n) : HoldsNumber property (.number n)
  | item {items : List Json} {item : Json} (member : item ∈ items)
    (holds : HoldsNumber property item) : HoldsNumber property (.array items)
  | entry {entries : List (String × Json)} {entry : String × Json} (member : entry ∈ entries)
    (holds : HoldsNumber property entry.2) : HoldsNumber property (.object entries)

namespace Json

variable {property : Json.Number → Prop}

/-- Such a number occurs in a number exactly if the number is one. -/
theorem holdsNumber_number {n : Json.Number} : HoldsNumber property (.number n) ↔ property n := by
  constructor
  · intro within
    cases within with
    | number has => exact has
  · exact .number

/-- Such a number occurs in an array exactly if it occurs in an item. -/
theorem holdsNumber_array {items : List Json} :
    HoldsNumber property (.array items) ↔ ∃ item ∈ items, item.HoldsNumber property := by
  constructor
  · intro within
    cases within with
    | item member holds => exact ⟨_, member, holds⟩
  · intro among
    obtain ⟨item, member, holds⟩ := among
    exact .item member holds

/-- Such a number occurs in an object exactly if it occurs in the value of an entry. -/
theorem holdsNumber_object {entries : List (String × Json)} :
    HoldsNumber property (.object entries) ↔ ∃ entry ∈ entries, entry.2.HoldsNumber property := by
  constructor
  · intro within
    cases within with
    | entry member holds => exact ⟨_, member, holds⟩
  · intro among
    obtain ⟨entry, member, holds⟩ := among
    exact .entry member holds

/-- Arrays are compared item by item. -/
theorem memberwise_items : Memberwise beq beqItems := ⟨rfl, fun _ _ _ _ => rfl⟩

/-- Objects are compared entry by entry, by the keys and the values. -/
theorem memberwise_entries :
    Memberwise (fun left right => left.1 == right.1 && beq left.2 right.2) beqEntries :=
  ⟨rfl, fun _ _ _ _ => rfl⟩

end Json

/-- A step from an array to one of its items, or from a mapping or an object to the value of a key. -/
inductive Step where
  | item (index : Nat)
  | entry (key : String)

/-- The part of a value to which a step leads, if it leads to one. -/
def Raw.part? : Raw → Step → Option Raw
  | .array items, .item index => items[index]?
  | .mapping entries, .entry key => entries.lookup key
  | _, _ => none

/-- The part of a JSON value to which a step leads, if it leads to one. -/
def Json.part? : Json → Step → Option Json
  | .array items, .item index => items[index]?
  | .object entries, .entry key => entries.lookup key
  | _, _ => none

/-- The part of a value to which a path of steps leads, if it leads to one. -/
def Raw.at? (value : Raw) (path : List Step) : Option Raw := path.foldlM part? value

/-- The part of a JSON value to which a path of steps leads, if it leads to one. -/
def Json.at? (json : Json) (path : List Step) : Option Json := path.foldlM part? json

namespace Raw

/-- An array is written item by item. -/
@[simp] theorem toJson_array (items : List Raw) :
    toJson (.array items) = .array (items.map toJson) := by
  rw [toJson]
  exact congrArg Json.array (eq_map rfl (fun _ _ => rfl) items)

/-- A mapping is written entry by entry, under the same keys. -/
@[simp] theorem toJson_mapping (entries : List (String × Raw)) :
    toJson (.mapping entries) = .object (entries.map fun entry => (entry.1, entry.2.toJson)) := by
  rw [toJson]
  exact congrArg Json.object (eq_map rfl (fun _ _ => rfl) entries)

/-- An array is read item by item. -/
@[simp] theorem ofJson_array (items : List Json) :
    ofJson (.array items) = .array (items.map ofJson) := by
  rw [ofJson]
  exact congrArg array (eq_map rfl (fun _ _ => rfl) items)

/-- An object is read entry by entry, under the same keys. -/
@[simp] theorem ofJson_object (entries : List (String × Json)) :
    ofJson (.object entries) = .mapping (entries.map fun entry => (entry.1, ofJson entry.2)) := by
  rw [ofJson]
  exact congrArg mapping (eq_map rfl (fun _ _ => rfl) entries)

/-- A step leads to what is written of the part that it leads to in the value. -/
theorem part?_toJson (value : Raw) (step : Step) :
    value.toJson.part? step = (value.part? step).map toJson := by
  -- An array has items only, and a mapping entries only.
  cases value with
  | array items =>
    rw [toJson_array]
    cases step with
    | item index => exact List.getElem?_map
    | entry key => rfl
  | mapping entries =>
    rw [toJson_mapping]
    cases step with
    | item index => rfl
    | entry key => exact Entries.lookup_map toJson key entries
  | float x =>
    -- Neither a float nor null has parts.
    rw [toJson, floatToJson]
    split <;> rfl
  | _ => rfl

/-- A step leads to what is read of the part that it leads to in the JSON value. -/
theorem part?_ofJson (json : Json) (step : Step) :
    (ofJson json).part? step = (json.part? step).map ofJson := by
  -- An array has items only, and an object entries only.
  cases json with
  | array items =>
    rw [ofJson_array]
    cases step with
    | item index => exact List.getElem?_map
    | entry key => rfl
  | object entries =>
    rw [ofJson_object]
    cases step with
    | item index => rfl
    | entry key => exact Entries.lookup_map ofJson key entries
  | number n =>
    -- Neither an integer nor the float that it may become has parts.
    cases n with
    | integer n inRange =>
      rw [ofJson, ofNumber]
      split <;> rfl
    | float => rfl
  | _ => rfl

/-- A path leads to what is written of the part that it leads to in the value. -/
theorem at?_toJson (value : Raw) (path : List Step) :
    value.toJson.at? path = (value.at? path).map toJson := by
  -- Induct over the path, one step at a time.
  induction path generalizing value with
  | nil => rfl
  | cons step rest ih =>
    rw [Json.at?, at?, List.foldlM_cons, List.foldlM_cons, part?_toJson]
    cases value.part? step with
    | none => rfl
    | some part => exact ih part

/-- A path leads to what is read of the part that it leads to in the JSON value. -/
theorem at?_ofJson (json : Json) (path : List Step) :
    (ofJson json).at? path = (json.at? path).map ofJson := by
  -- Induct over the path, one step at a time.
  induction path generalizing json with
  | nil => rfl
  | cons step rest ih =>
    rw [Json.at?, at?, List.foldlM_cons, List.foldlM_cons, part?_ofJson]
    cases json.part? step with
    | none => rfl
    | some part => exact ih part

end Raw

end NamedParams
