import Mathlib.Data.List.TakeWhile
import NamedParams.Unicode.Query

/-! Names that no property and no value of a property has. -/

namespace NamedParams.Unicode

/-- A character that structures a pattern and occurs in no name of a property. -/
def isForeign (c : Char) : Bool := c = '[' || c = ']' || c = '\\' || c = '^' || c = '$'

/-- A name with a foreign character. -/
def Foreign (name : String) : Prop := ∃ c ∈ name.toList, isForeign c = true

/-- A query with a foreign character in the name of the property or of its value. -/
def Query.Foreign : Query → Prop
  | .named name => Unicode.Foreign name
  | .valued name value => Unicode.Foreign name ∨ Unicode.Foreign value

/-- The foreign characters are the brackets of classes, the backslash and the anchors. -/
theorem isForeign_eq_true {c : Char} :
    isForeign c = true ↔ c = '[' ∨ c = ']' ∨ c = '\\' ∨ c = '^' ∨ c = '$' := by
  simp [isForeign, or_assoc]

/-- All foreign characters but one follow each other. -/
theorem isForeign_iff {c : Char} :
    isForeign c = true ↔ 91 ≤ c.toNat ∧ c.toNat ≤ 94 ∨ c.toNat = 36 := by
  -- The four are neighbours in ASCII, and the dollar stands apart.
  simp only [isForeign, Bool.or_eq_true, decide_eq_true_eq, ← Char.toNat_inj]
  simp
  omega

/-- Where case is ignored, foreign characters stay foreign and no others become so. -/
theorem toLower_foreign {c : Char} : isForeign c.toLower = true ↔ isForeign c = true := by
  -- Only capital letters change, and they become small letters.
  rw [isForeign_iff, isForeign_iff]
  unfold Char.toLower
  split
  · rename_i upper
    have low : 65 ≤ c.toNat := upper.1
    have high : c.toNat ≤ 90 := upper.2
    have shifted : (c.val + ('a'.val - 'A'.val)).toNat = c.toNat + 32 := by
      show (c.val + 32).toNat = _
      rw [UInt32.toNat_add]
      exact Nat.mod_eq_of_lt (show c.toNat + 32 < 2 ^ 32 by omega)
    simp only [Char.toNat, shifted] at low high ⊢
    omega
  · rfl

/-- A loose name keeps foreign characters and gains none. -/
theorem foreign_looseName {name : String} : Foreign (looseName name) ↔ Foreign name := by
  -- What is left out of a loose name is no foreign character.
  have kept (list : List Char) :
      (∃ c ∈ (list.filter fun c => c.toNat < 128 && c != ' ' && c != '_' && c != '-').map
        Char.toLower, isForeign c = true) ↔ ∃ c ∈ list, isForeign c = true := by
    simp only [List.mem_map, List.mem_filter]
    constructor
    · intro loose
      obtain ⟨_, ⟨c, ⟨member, _⟩, rfl⟩, foreign⟩ := loose
      exact ⟨c, member, toLower_foreign.1 foreign⟩
    · intro written
      obtain ⟨c, member, foreign⟩ := written
      have code := isForeign_iff.1 foreign
      refine ⟨c.toLower, ⟨c, ⟨member, ?_⟩, rfl⟩, toLower_foreign.2 foreign⟩
      have blank : c ≠ ' ' := by rintro rfl; simp at code
      have underscore : c ≠ '_' := by rintro rfl; simp at code
      have hyphen : c ≠ '-' := by rintro rfl; simp at code
      simp [blank, underscore, hyphen]
      omega
  have letter {c d : Char} (lower : c.toLower = d) (plain : isForeign d = false) :
      isForeign c = false := by
    rw [← Bool.not_eq_true, ← toLower_foreign, lower, plain]
    decide
  -- A leading mark is dropped, but its letters are not foreign.
  unfold looseName Foreign
  generalize name.toList = list
  match list with
  | [] => simp
  | [c] => simpa using kept [c]
  | first :: second :: rest =>
    by_cases marked : first.toLower = 'i' ∧ second.toLower = 's'
    · -- Only the rest counts, and where the mark is put back it is no foreign character either.
      have plain : (∃ c ∈ first :: second :: rest, isForeign c = true) ↔
          ∃ c ∈ rest, isForeign c = true := by
        simp [letter marked.1 rfl, letter marked.2 rfl]
      rw [plain, ← kept rest]
      simp only [marked, decide_true, Bool.and_self, if_true, Bool.true_and]
      split
      · rename_i short
        simp only [decide_eq_true_eq] at short
        simp [short, isForeign]
      · simp
    · have unmarked : (first.toLower = 'i' && second.toLower = 's') = false := by
        simpa using marked
      simpa [unmarked] using kept (first :: second :: rest)

/-- The tables in which the names of properties and values are looked up. -/
def nameTables : List (List (List String)) :=
  [binaryNames, otherProperties, categoryNames, categoryGroups.map (·.1), scriptNames,
    graphemeBreakNames, wordBreakNames, sentenceBreakNames, ageRanges.map fun entry => [entry.1]]

/-- The bytes that foreign characters are written with. -/
def foreignBytes : List Nat := [36, 91, 92, 93, 94]

/-- A foreign character of a text is one of its bytes. -/
theorem Foreign.exists_byte {name : String} (foreign : Foreign name) :
    ∃ byte ∈ name.toByteArray.data.toList, byte.toNat ∈ foreignBytes := by
  obtain ⟨c, member, mark⟩ := foreign
  -- A foreign character is ASCII, so that it is one byte of the name.
  have code := isForeign_iff.1 mark
  have one : String.utf8EncodeChar c = [UInt8.ofNat c.toNat] := by
    simp only [String.utf8EncodeChar, show c.val.toNat = c.toNat from rfl]
    rw [if_pos (by omega)]
  have bytes : name.toByteArray.data.toList = name.toList.flatMap String.utf8EncodeChar := by
    conv => lhs; rw [← String.ofList_toList (s := name), String.toByteArray_ofList]
    simp [List.utf8Encode]
  refine ⟨UInt8.ofNat c.toNat, ?_, ?_⟩
  · rw [bytes]
    exact List.mem_flatMap.2 ⟨c, member, by simp [one]⟩
  · have same : (UInt8.ofNat c.toNat).toNat = c.toNat :=
      UInt8.toNat_ofNat_of_lt' (by rw [UInt8.size]; omega)
    simp only [same, foreignBytes, List.mem_cons, List.not_mem_nil]
    omega

/-- No name that is looked up has a foreign character. -/
theorem not_foreign_of_mem {table : List (List String)} {row : List String} {name : String}
    (listed : table ∈ nameTables) (among : row ∈ table) (member : name ∈ row) : ¬ Foreign name := by
  -- The bytes of a text are computed faster than its characters.
  have plain : nameTables.all (fun table => table.all fun row => row.all fun name =>
      name.toByteArray.data.toList.all fun byte => !foreignBytes.contains byte.toNat) = true := by
    decide +kernel
  intro foreign
  obtain ⟨byte, inside, mark⟩ := foreign.exists_byte
  have rows := List.all_eq_true.1 plain table listed
  have names := List.all_eq_true.1 rows row among
  have letters := List.all_eq_true.1 (List.all_eq_true.1 names name member) byte inside
  rw [List.contains_iff_mem.2 mark] at letters
  cases letters

/-- A loose name with a foreign character is in no row of a table. -/
theorem not_any_foreign {table : List (List String)} {row : List String} {name : String}
    (listed : table ∈ nameTables) (among : row ∈ table) (foreign : Foreign name) :
    (row.any fun other => looseName other = name) = false := by
  -- A name of the row would have the foreign character too.
  simp only [List.any_eq_false, decide_eq_true_eq]
  intro other member same
  subst same
  exact not_foreign_of_mem listed among member (foreign_looseName.1 foreign)

/-- A loose name with a foreign character is found in no table. -/
theorem canonical?_foreign {table : List (List String)} {name : String}
    (listed : table ∈ nameTables) (foreign : Foreign name) : canonical? table name = none := by
  -- No row of the table has a name that is spelled with such a character.
  have absent : table.find? (fun row => row.any fun other => looseName other = name) = none := by
    simp only [List.find?_eq_none, Bool.not_eq_true]
    exact fun row among => not_any_foreign listed among foreign
  simp [canonical?, absent]

/-- A foreign character names no general category. -/
theorem generalCategory?_foreign {name : String} (foreign : Foreign name) :
    generalCategory? name = none := by
  -- A category is a special name, a group of categories or listed by its own name.
  have special : name ≠ "any" ∧ name ≠ "assigned" ∧ name ≠ "ascii" := by
    refine ⟨?_, ?_, ?_⟩ <;> rintro rfl <;> revert foreign <;> simp [Foreign] <;> decide
  have group : (categoryGroups.find? fun group =>
      group.1.any fun other => looseName other = name) = none := by
    simp only [List.find?_eq_none, Bool.not_eq_true]
    intro group among
    exact not_any_foreign (by simp [nameTables]) (List.mem_map_of_mem among) foreign
  have category : canonical? categoryNames name = none :=
    canonical?_foreign (by simp [nameTables]) foreign
  simp [generalCategory?, special, group, category]

/-- A foreign character names no version. -/
theorem age?_foreign {name : String} (foreign : Foreign name) :
    age? name = .error .unknownValue := by
  -- A version is spelled with or without a letter in front of its digits.
  have unspelled : ∀ entry ∈ ageRanges, (!([entry.1, "v" ++ String.ofList
      (entry.1.toList.filter Char.isDigit)].contains name)) = true := by
    intro entry among
    have rows : (ageRanges.map fun entry => [entry.1]) ∈ nameTables := by simp [nameTables]
    have plain : ¬ Foreign entry.1 :=
      not_foreign_of_mem rows (List.mem_map_of_mem among) List.mem_cons_self
    rw [Bool.not_eq_true', List.contains_eq_mem, decide_eq_false_iff_not]
    intro spelled
    -- The digits are those of the plain spelling, and the letter is not foreign.
    rcases List.mem_cons.1 spelled with rfl | lettered
    · exact plain foreign
    · obtain ⟨c, inside, mark⟩ := foreign
      simp only [List.mem_singleton.1 lettered, String.toList_append,
        String.toList_ofList] at inside
      rcases List.mem_append.1 inside with letter | digit
      · have same : c = 'v' := by simpa using letter
        subst same
        exact absurd mark (by decide)
      · exact plain ⟨c, (List.mem_filter.1 digit).1, mark⟩
  -- So no entry of the table stops the search.
  have none : ageRanges[ageRanges.length]? = none := List.getElem?_eq_none (Nat.le_refl _)
  have all : (ageRanges.takeWhile fun entry => !([entry.1, "v" ++ String.ofList
      (entry.1.toList.filter Char.isDigit)].contains name)) = ageRanges :=
    List.takeWhile_eq_self_iff.2 unspelled
  simp only [age?, all, none]

/-- A foreign character names no value. -/
theorem value?_foreign {names : List (List String)} {table : List (String × String)} {name : String}
    (listed : names ∈ nameTables) (foreign : Foreign name) :
    value? names table name = .error .unknownValue := by
  -- What is unknown as a name has no value.
  simp [value?, canonical?_foreign listed foreign]

/-- A foreign character names no property. -/
theorem named_foreign {name : String} (foreign : Foreign name) :
    named name = .error .unknownProperty := by
  -- A lone name is looked up as a property, as a category and as a script.
  have shared : name ≠ "cf" ∧ name ≠ "sc" ∧ name ≠ "lc" := by
    refine ⟨?_, ?_, ?_⟩ <;> rintro rfl <;> revert foreign <;> simp [Foreign] <;> decide
  have binary : canonical? binaryNames name = none :=
    canonical?_foreign (by simp [nameTables]) foreign
  have other : canonical? otherProperties name = none :=
    canonical?_foreign (by simp [nameTables]) foreign
  have script : canonical? scriptNames name = none :=
    canonical?_foreign (by simp [nameTables]) foreign
  simp [named, shared, binary, other, generalCategory?_foreign foreign, script]

/-- A foreign character in the name of a property or of its value leaves no answer. -/
theorem valued_foreign {name value : String} (foreign : Foreign name ∨ Foreign value) :
    ∃ fault, valued name value = .error fault := by
  -- Without a property there is nothing to ask for, and every kind of value has its own table.
  unfold valued
  rcases foreign with foreign | foreign
  · have binary : canonical? binaryNames name = none :=
      canonical?_foreign (by simp [nameTables]) foreign
    have other : canonical? otherProperties name = none :=
      canonical?_foreign (by simp [nameTables]) foreign
    exact ⟨.unknownProperty, by simp [binary, other]⟩
  · have general : (generalCategory? value).getD (.error .unknownValue) = .error .unknownValue := by
      rw [generalCategory?_foreign foreign]
      rfl
    -- The kinds of values, each with the table of its names.
    split
    · exact ⟨_, general⟩
    · exact ⟨_, value?_foreign (by simp [nameTables]) foreign⟩
    · exact ⟨_, value?_foreign (by simp [nameTables]) foreign⟩
    · exact ⟨_, age?_foreign foreign⟩
    · exact ⟨_, value?_foreign (by simp [nameTables]) foreign⟩
    · exact ⟨_, value?_foreign (by simp [nameTables]) foreign⟩
    · exact ⟨_, value?_foreign (by simp [nameTables]) foreign⟩
    · exact ⟨_, rfl⟩
    · split <;> exact ⟨_, rfl⟩

/-- A query with a foreign character has no answer. -/
theorem Query.answer_foreign {query : Query} (foreign : query.Foreign) :
    ∃ fault, query.answer = .error fault := by
  -- Names are loose by the time they are looked up.
  cases query with
  | named name => exact ⟨_, named_foreign (foreign_looseName.2 foreign)⟩
  | valued name value =>
    exact valued_foreign (foreign.imp foreign_looseName.2 foreign_looseName.2)

end NamedParams.Unicode
