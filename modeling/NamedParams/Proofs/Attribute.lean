import NamedParams.Attribute

/-! The keys that spell an attribute, and the attributes that a type allows. -/

namespace NamedParams.Attribute

/-- The keys that spell an attribute, the canonical one first. -/
def spellings : Attribute → List String
  | .displayName => ["display_name", "displayName"]
  | .minLength => ["min_length", "minLength"]
  | .maxLength => ["max_length", "maxLength"]
  | a => [a.name]

/-- A key is read as an attribute exactly if it is one of its spellings. -/
theorem ofKey?_eq_some_iff {key : String} {a : Attribute} :
    ofKey? key = some a ↔ key ∈ a.spellings := by
  constructor
  · -- The reader lists every spelling beside its attribute.
    intro read
    unfold ofKey? at read
    split at read <;> cases read <;> simp [spellings, name]
  · -- Conversely, each of the few spellings is a case of the reader.
    intro spelled
    cases a <;> simp only [spellings, name, List.mem_cons, List.not_mem_nil, or_false] at spelled
    all_goals first
      | subst spelled
        rfl
      | rcases spelled with rfl | rfl <;> rfl

/-- The canonical key of an attribute spells it. -/
theorem name_mem_spellings (a : Attribute) : a.name ∈ a.spellings := by
  -- Every attribute lists its name as its first spelling.
  cases a <;> simp [spellings, name]

/-- A key spells at most one attribute. -/
theorem eq_of_mem_spellings {a b : Attribute} {key : String} (first : key ∈ a.spellings)
    (second : key ∈ b.spellings) : a = b := by
  -- A key is read as one attribute only.
  have read := ofKey?_eq_some_iff.2 first
  rw [ofKey?_eq_some_iff.2 second] at read
  exact (Option.some.inj read).symm

/-- The canonical key of an attribute is the greatest of its spellings. -/
theorem le_name_of_mem_spellings {a : Attribute} {key : String} (spelled : key ∈ a.spellings) :
    key ≤ a.name := by
  -- An underscore comes behind every capital letter.
  cases a <;> simp only [spellings, name, List.mem_cons, List.not_mem_nil, or_false] at spelled
  all_goals first
    | subst spelled
      decide
    | rcases spelled with rfl | rfl <;> decide

/-- The key of the type spells no attribute. -/
theorem typeKey_not_mem_spellings (a : Attribute) : typeKey ∉ a.spellings := by
  -- The key of the type is compared with the few spellings of each attribute.
  cases a <;> decide

/-- An attribute applies to a type exactly if it is among the legal ones. -/
theorem appliesTo_iff {a : Attribute} {type : ParameterType} :
    a.appliesTo type = true ↔ a ∈ legal type := by
  -- The attributes of a type are the universal ones and those that it lists.
  simp [appliesTo, isUniversal, legal]

end NamedParams.Attribute
