import NamedParams.Proofs.Equality
import NamedParams.Proofs.Json.Representable

/-! What is lost between decoded values and JSON values: floats that are not finite when a value is
written, and the kind of integers beyond the signed range when one is read. -/

namespace NamedParams

/-- A float is finite exactly if it is neither NaN nor infinite. -/
theorem isFinite_iff {x : Float} : x.isFinite = true ↔ ¬ (x.isNaN = true ∨ x.isInf = true) := by
  -- The three tests look at the form of the unpacked float.
  show x.toModel.unpack.isFinite = true ↔
    ¬ (x.toModel.unpack.isNaN = true ∨ x.toModel.unpack.isInf = true)
  cases x.toModel.unpack <;> simp [Float.Model.UnpackedFloat.isFinite,
    Float.Model.UnpackedFloat.isNaN, Float.Model.UnpackedFloat.isInf]

/-- A finite float equals itself. -/
theorem float_beq_self_of_finite {x : Float} (finite : x.isFinite = true) : (x == x) = true := by
  -- Only a NaN differs from itself, and it is not finite.
  rw [float_beq_self]
  simpa using fun nan => isFinite_iff.1 finite (.inl nan)

namespace Raw

/-- A float that is NaN or infinite occurs in a value, at whatever depth. -/
def HoldsNonFinite (value : Raw) : Prop :=
  value.HoldsFloat fun x => x.isNaN = true ∨ x.isInf = true

mutual

/-- The value with null in place of each float that is NaN or infinite. -/
def withoutNonFinite : Raw → Raw
  | .float x => if x.isNaN = true ∨ x.isInf = true then .null else .float x
  | .array items => .array (itemsWithoutNonFinite items)
  | .mapping entries => .mapping (entriesWithoutNonFinite entries)
  | other => other

/-- The items with null in place of each float in them that is NaN or infinite. -/
def itemsWithoutNonFinite : List Raw → List Raw
  | [] => []
  | item :: rest => withoutNonFinite item :: itemsWithoutNonFinite rest

/-- The entries with null in place of each float in them that is NaN or infinite. -/
def entriesWithoutNonFinite : List (String × Raw) → List (String × Raw)
  | [] => []
  | (key, value) :: rest => (key, withoutNonFinite value) :: entriesWithoutNonFinite rest

end

/-- In an array, floats are replaced item by item. -/
@[simp] theorem withoutNonFinite_array (items : List Raw) :
    withoutNonFinite (.array items) = .array (items.map withoutNonFinite) := by
  -- The items are replaced one by one, which is a map.
  rw [withoutNonFinite]
  exact congrArg array (eq_map rfl (fun _ _ => rfl) items)

/-- In a mapping, floats are replaced entry by entry. -/
@[simp] theorem withoutNonFinite_mapping (entries : List (String × Raw)) :
    withoutNonFinite (.mapping entries) =
      .mapping (entries.map fun entry => (entry.1, entry.2.withoutNonFinite)) := by
  -- The values of the entries are replaced one by one, which is a map.
  rw [withoutNonFinite]
  exact congrArg mapping (eq_map rfl (fun _ _ => rfl) entries)

/-- A non-finite float occurs in a float exactly if the float is one. -/
theorem holdsNonFinite_float {x : Float} : HoldsNonFinite (.float x) ↔ ¬ x.isFinite = true := by
  -- Neither NaN nor infinite is the same as finite.
  rw [isFinite_iff, Classical.not_not, HoldsNonFinite, holdsFloat_float]

/-- What is written is read again with null in place of each float that JSON cannot hold. -/
theorem ofJson_toJson (value : Raw) : ofJson value.toJson = value.withoutNonFinite := by
  -- Induct over the value: only floats that are not finite become something else.
  induction value using Raw.induction with
  | null | boolean | string => rfl
  | integer n => exact representable_integer n
  | float x =>
    rw [withoutNonFinite]
    split
    · -- JSON has no such number, so null is written.
      rename_i unbounded
      have infinite : ¬ x.isFinite = true := fun finite => isFinite_iff.1 finite unbounded
      rw [toJson, floatToJson, dif_neg infinite]
      rfl
    · rename_i bounded
      exact representable_float (isFinite_iff.2 bounded)
  | array items ih => simpa using ih
  | mapping entries ih => simpa using ih

/-- JSON represents a value as it is exactly if no float in it is NaN or infinite. -/
theorem representable_iff (value : Raw) : value.Representable ↔ ¬ value.HoldsNonFinite := by
  -- Induct over the value: all but floats are represented as they are.
  induction value using Raw.induction with
  | null | boolean | string => exact ⟨fun _ => nofun, fun _ => rfl⟩
  | integer n => exact ⟨fun _ => nofun, fun _ => representable_integer n⟩
  | float x =>
    rw [holdsNonFinite_float, Classical.not_not]
    refine ⟨fun kept => ?_, representable_float⟩
    -- A float that is not finite would have become null.
    rw [Representable, toJson, floatToJson] at kept
    split at kept
    · assumption
    · cases kept
  | array items ih =>
    rw [representable_array, HoldsNonFinite, holdsFloat_array]
    push Not
    exact forall₂_congr ih
  | mapping entries ih =>
    rw [representable_mapping, HoldsNonFinite, holdsFloat_mapping]
    push Not
    exact forall₂_congr ih

/-- With null in place of floats that are not finite, a value equals the one before exactly if there
are none. -/
theorem beq_withoutNonFinite_iff (value : Raw) :
    beq value.withoutNonFinite value = true ↔ ¬ value.HoldsNonFinite := by
  -- Induct over the value, which is compared part by part.
  induction value using Raw.induction with
  | null | boolean | string | integer =>
    -- A value without floats is left as it is, and equals itself.
    refine iff_of_true ?_ fun within => ?_
    · simp [withoutNonFinite, beq]
    · cases within
  | float x =>
    rw [holdsNonFinite_float, Classical.not_not, withoutNonFinite]
    split
    · rename_i unbounded
      -- Null equals no float.
      exact iff_of_false Bool.false_ne_true fun finite => isFinite_iff.1 finite unbounded
    · rename_i bounded
      have finite := isFinite_iff.2 bounded
      exact iff_of_true (float_beq_self_of_finite finite) finite
  | array items ih =>
    rw [withoutNonFinite_array, beq, memberwise_items.map_iff, HoldsNonFinite, holdsFloat_array]
    push Not
    exact forall₂_congr ih
  | mapping entries ih =>
    rw [withoutNonFinite_mapping, beq, memberwise_entries.entries_map_iff, HoldsNonFinite,
      holdsFloat_mapping]
    push Not
    exact forall₂_congr ih

end Raw

namespace Json

/-- An integer beyond the signed range. -/
def Number.IsLarge : Number → Prop
  | .integer n _ => ¬ (-0x8000000000000000 ≤ n ∧ n < 0x8000000000000000)
  | .float _ _ => False

/-- An integer beyond the signed range occurs in a JSON value, at whatever depth. -/
def HoldsLarge (json : Json) : Prop := json.HoldsNumber Number.IsLarge

variable {n : Int} {inRange : -0x8000000000000000 ≤ n ∧ n < 0x10000000000000000}

/-- An integer is a large one exactly if it is not below the end of the signed range. -/
theorem holdsLarge_integer :
    HoldsLarge (.number (.integer n inRange)) ↔ ¬ n < 0x8000000000000000 := by
  -- It is never below the start of that range.
  rw [HoldsLarge, holdsNumber_number, Number.IsLarge, not_congr (and_iff_right inRange.1)]

/-- A float is no large integer. -/
theorem not_holdsLarge_float {x : Float} {finite : x.isFinite = true} :
    ¬ HoldsLarge (.number (.float x finite)) :=
  -- A float is no integer of any size.
  mt holdsNumber_number.1 id

end Json

namespace Raw

variable {n : Int} {inRange : -0x8000000000000000 ≤ n ∧ n < 0x10000000000000000}

/-- An integer of the signed range is read as that integer. -/
theorem ofNumber_of_small (small : n < 0x8000000000000000) :
    ∃ m, ofNumber (.integer n inRange) = .integer m ∧ m.toInt = n :=
  ⟨Int64.ofInt n, if_pos small, Int64.toInt_ofInt_of_le inRange.1 small⟩

/-- An integer of the signed range is written as it was read. -/
theorem toJson_ofNumber_of_small (small : n < 0x8000000000000000) :
    (ofNumber (.integer n inRange)).toJson = .number (.integer n inRange) := by
  -- The integer fits, so it is neither cut nor turned into a float.
  obtain ⟨m, read, same⟩ := ofNumber_of_small small
  rw [read]
  simp [toJson, same]

/-- A larger integer is written as the float that it has become. -/
theorem toJson_ofNumber_of_large (large : ¬ n < 0x8000000000000000) :
    (ofNumber (.integer n inRange)).toJson =
      .number (.float n.toNat.toUInt64.toFloat (Binary64.isFinite_toFloat _)) := by
  -- The float that it becomes is finite, so JSON can hold it.
  rw [ofNumber, if_neg large, toJson, floatToJson, dif_pos]

/-- A float of JSON is written as it was read. -/
theorem toJson_ofNumber_float (x : Float) (finite : x.isFinite = true) :
    (ofNumber (.float x finite)).toJson = .number (.float x finite) := by
  -- A float of JSON is finite, so JSON can hold it again.
  rw [ofNumber, toJson, floatToJson, dif_pos]

/-- What is read of a JSON value is written as it was exactly if no integer in it is beyond the signed
range. -/
theorem toJson_ofJson_eq_iff (json : Json) : (ofJson json).toJson = json ↔ ¬ json.HoldsLarge := by
  -- Induct over the JSON value: all but large integers are written as they were read.
  induction json using Json.induction with
  | null | boolean | string => exact ⟨fun _ => nofun, fun _ => rfl⟩
  | number n =>
    rw [ofJson]
    cases n with
    | integer n inRange =>
      rw [Json.holdsLarge_integer, Classical.not_not]
      -- A large integer is written as a float and so is another number.
      by_cases small : n < 0x8000000000000000
      · exact iff_of_true (toJson_ofNumber_of_small small) small
      · exact iff_of_false (by simp [toJson_ofNumber_of_large small]) small
    | float x finite => exact iff_of_true (toJson_ofNumber_float x finite) Json.not_holdsLarge_float
  | array items ih =>
    rw [ofJson_array, toJson_array, List.map_map, Json.array.injEq, map_eq_self_iff,
      Json.HoldsLarge, Json.holdsNumber_array]
    push Not
    exact forall₂_congr ih
  | object entries ih =>
    rw [ofJson_object, toJson_mapping, List.map_map, Json.object.injEq, Json.HoldsLarge,
      Json.holdsNumber_object]
    push Not
    exact Iff.trans (Entries.map_eq_self_iff (f := fun value => (ofJson value).toJson))
      (forall₂_congr ih)

end Raw

namespace Json

/-- What is written of a JSON value that was read equals it exactly if no integer in it is beyond the
signed range. -/
theorem beq_toJson_ofJson_iff (json : Json) :
    beq (Raw.ofJson json).toJson json = true ↔ ¬ json.HoldsLarge := by
  -- Induct over the JSON value, which is compared part by part.
  induction json using Json.induction with
  | null => exact ⟨fun _ => nofun, fun _ => rfl⟩
  | boolean | string =>
    refine iff_of_true ?_ fun within => ?_
    · simp [Raw.ofJson, Raw.toJson, beq]
    · cases within
  | number n =>
    rw [Raw.ofJson]
    cases n with
    | integer n inRange =>
      rw [holdsLarge_integer, Classical.not_not]
      by_cases small : n < 0x8000000000000000
      · -- An integer of the signed range comes back.
        rw [Raw.toJson_ofNumber_of_small small, beq]
        exact iff_of_true (beq_self_eq_true n) small
      · -- A float equals no integer.
        rw [Raw.toJson_ofNumber_of_large small, beq]
        exact iff_of_false Bool.false_ne_true small
    | float x finite =>
      rw [Raw.toJson_ofNumber_float, beq]
      exact iff_of_true (float_beq_self_of_finite finite) not_holdsLarge_float
  | array items ih =>
    rw [Raw.ofJson_array, Raw.toJson_array, List.map_map, beq, memberwise_items.map_iff,
      HoldsLarge, holdsNumber_array]
    push Not
    exact forall₂_congr ih
  | object entries ih =>
    rw [Raw.ofJson_object, Raw.toJson_mapping, List.map_map, beq, HoldsLarge, holdsNumber_object]
    push Not
    exact Iff.trans (memberwise_entries.entries_map_iff (f := fun value => (Raw.ofJson value).toJson))
      (forall₂_congr ih)

end Json

namespace Raw

/-- A value is written as an integer exactly if it is that integer. -/
theorem toJson_eq_integer_iff {value : Raw} {n : Int}
    {inRange : -0x8000000000000000 ≤ n ∧ n < 0x10000000000000000} :
    value.toJson = .number (.integer n inRange) ↔ ∃ m, value = .integer m ∧ m.toInt = n := by
  -- Only integers are written as integers.
  cases value with
  | float x =>
    -- A float is written as a float or as null.
    rw [toJson, floatToJson]
    split <;> simp
  | _ => simp [toJson]

/-- A value is written as a float exactly if it is that float. -/
theorem toJson_eq_float_iff {value : Raw} {x : Float} {finite : x.isFinite = true} :
    value.toJson = .number (.float x finite) ↔ value = .float x := by
  -- Only finite floats are written as floats.
  cases value with
  | float y =>
    rw [toJson, floatToJson]
    split
    · simp
    · rename_i infinite
      -- A float that is written as null is not the finite one.
      refine iff_of_false (by simp) fun same => infinite ?_
      cases same
      exact finite
  | _ => simp [toJson]

/-- A JSON value is read as an integer exactly if it is that integer. -/
theorem ofJson_eq_integer_iff {json : Json} {m : Int64} :
    ofJson json = .integer m ↔ ∃ inRange, json = .number (.integer m.toInt inRange) := by
  -- Only numbers can be read as integers.
  cases json with
  | number n =>
    cases n with
    | integer n inRange =>
      rw [ofJson]
      by_cases small : n < 0x8000000000000000
      · obtain ⟨k, read, rfl⟩ : ∃ k, ofNumber (.integer n inRange) = .integer k ∧ k.toInt = n :=
          ofNumber_of_small small
        rw [read]
        constructor
        · rintro ⟨⟩
          exact ⟨inRange, rfl⟩
        · rintro ⟨_, same⟩
          simp only [Json.number.injEq, Json.Number.integer.injEq, Int64.toInt_inj] at same
          rw [same]
      · -- A larger integer becomes a float, and is none of the signed range.
        rw [ofNumber, if_neg small]
        refine iff_of_false (by simp) fun integer => small ?_
        obtain ⟨_, same⟩ := integer
        cases same
        exact m.toInt_lt
    | float x finite => simp [ofJson, ofNumber]
  | _ => simp [ofJson]

/-- A JSON value is read as a float exactly if it is that float, or an integer beyond the signed range
that becomes the float. -/
theorem ofJson_eq_float_iff {json : Json} {x : Float} :
    ofJson json = .float x ↔ (∃ finite, json = .number (.float x finite)) ∨
      ∃ n inRange, json = .number (.integer n inRange) ∧ ¬ n < 0x8000000000000000 ∧
        n.toNat.toUInt64.toFloat = x := by
  -- Only numbers can be read as floats.
  cases json with
  | number n =>
    cases n with
    | integer n inRange =>
      rw [ofJson, ofNumber]
      -- An integer is read as a float only beyond the signed range.
      split <;> simp_all
    | float y finite =>
      rw [ofJson, ofNumber]
      constructor
      · rintro ⟨⟩
        exact .inl ⟨finite, rfl⟩
      · rintro (⟨_, ⟨⟩⟩ | ⟨_, _, ⟨⟩, _⟩)
        rfl
  | _ => simp [ofJson]

end Raw

/-- Where a value is written: its integers stand in their places and no others do, and so do its
finite floats. -/
structure Raw.WrittenAs (value : Raw) (json : Json) : Prop where
  integer : ∀ path n inRange, json.at? path = some (.number (.integer n inRange)) ↔
    ∃ m, value.at? path = some (.integer m) ∧ m.toInt = n
  float : ∀ path x finite, json.at? path = some (.number (.float x finite)) ↔
    value.at? path = some (.float x)

/-- Where a JSON value is read: its integers of the signed range stand in their places and no others
do, and floats stand in the places of floats and of larger integers. -/
structure Json.ReadAs (json : Json) (value : Raw) : Prop where
  integer : ∀ path m, value.at? path = some (.integer m) ↔
    ∃ inRange, json.at? path = some (.number (.integer m.toInt inRange))
  float : ∀ path x, value.at? path = some (.float x) ↔
    (∃ finite, json.at? path = some (.number (.float x finite))) ∨
      ∃ n inRange, json.at? path = some (.number (.integer n inRange)) ∧
        ¬ n < 0x8000000000000000 ∧ n.toNat.toUInt64.toFloat = x

/-- Every number keeps its kind where a value is written. -/
theorem Raw.writtenAs_toJson (value : Raw) : value.WrittenAs value.toJson where
  -- In each place stands what is written of the part in that place.
  integer path n inRange := by
    simp only [at?_toJson, Option.map_eq_some_iff, toJson_eq_integer_iff]
    constructor
    · rintro ⟨_, found, m, rfl, same⟩
      exact ⟨m, found, same⟩
    · rintro ⟨m, found, same⟩
      exact ⟨_, found, m, rfl, same⟩
  float path x finite := by
    simp only [at?_toJson, Option.map_eq_some_iff, toJson_eq_float_iff]
    simp

/-- Every number that can keeps its kind where a JSON value is read. -/
theorem Json.readAs_ofJson (json : Json) : json.ReadAs (Raw.ofJson json) where
  -- In each place stands what is read of the part in that place.
  integer path m := by
    simp only [Raw.at?_ofJson, Option.map_eq_some_iff, Raw.ofJson_eq_integer_iff]
    constructor
    · rintro ⟨_, found, inRange, rfl⟩
      exact ⟨inRange, found⟩
    · rintro ⟨inRange, found⟩
      exact ⟨_, found, inRange, rfl⟩
  float path x := by
    simp only [Raw.at?_ofJson, Option.map_eq_some_iff, Raw.ofJson_eq_float_iff]
    constructor
    · rintro ⟨_, found, ⟨finite, rfl⟩ | ⟨n, inRange, rfl, large, same⟩⟩
      · exact .inl ⟨finite, found⟩
      · exact .inr ⟨n, inRange, found, large, same⟩
    · rintro (⟨finite, found⟩ | ⟨n, inRange, found, large, same⟩)
      · exact ⟨_, found, .inl ⟨finite, rfl⟩⟩
      · exact ⟨_, found, .inr ⟨n, inRange, rfl, large, same⟩⟩

/-- Values and JSON values turn into each other without loss, apart from floats that JSON cannot hold,
which become null, and from integers beyond the signed range, which become floats; what has been read
once stays as it is from then on, and every other number keeps its kind in its place. -/
theorem conversions_lossless_iff (value : Raw) (json : Json) :
    (Raw.ofJson value.toJson = value.withoutNonFinite ∧
      (Raw.ofJson value.toJson = value ↔ ¬ value.HoldsNonFinite) ∧
      ((Raw.ofJson value.toJson == value) = true ↔ ¬ value.HoldsNonFinite)) ∧
    (((Raw.ofJson json).toJson = json ↔ ¬ json.HoldsLarge) ∧
      (((Raw.ofJson json).toJson == json) = true ↔ ¬ json.HoldsLarge) ∧
      (Raw.ofJson (Raw.ofJson json).toJson == Raw.ofJson json) = true) ∧
    value.WrittenAs value.toJson ∧ json.ReadAs (Raw.ofJson json) := by
  have written := Raw.ofJson_toJson value
  -- What was read is represented as it is, so no float in it is NaN or infinite.
  have finite := (Raw.representable_iff _).1 (Raw.representable_ofJson json)
  refine ⟨⟨written, Raw.representable_iff value, ?_⟩,
    ⟨Raw.toJson_ofJson_eq_iff json, Json.beq_toJson_ofJson_iff json, ?_⟩,
    value.writtenAs_toJson, json.readAs_ofJson⟩
  · rw [written]
    exact value.beq_withoutNonFinite_iff
  · rw [Raw.ofJson_toJson]
    exact (Raw.beq_withoutNonFinite_iff _).2 finite

end NamedParams
