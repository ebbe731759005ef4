import NamedParams.Proofs.Construction.Verdict
import NamedParams.Proofs.Slots.History

/-! The spelling of keys does not matter for what a mapping leads to, and of two spellings of one
attribute the canonical one counts. -/

namespace NamedParams

open Log (Gate)

namespace Attribute

/-- The other spelling of an attribute, if it has one; any other key stays as it is. -/
def respell : String → String
  | "display_name" => "displayName"
  | "displayName" => "display_name"
  | "min_length" => "minLength"
  | "minLength" => "min_length"
  | "max_length" => "maxLength"
  | "maxLength" => "max_length"
  | key => key

/-- Keys that are the same or spell the same attribute. -/
def Synonyms (key other : String) : Prop := key = other ∨ ∃ a, key ∈ spellings a ∧ other ∈ spellings a

/-- Another spelling spells the same attribute. -/
theorem synonyms_respell (key : String) : Synonyms key (respell key) := by
  -- Only the three attributes with two spellings have a key to exchange.
  unfold respell
  split
  · exact .inr ⟨.displayName, by decide⟩
  · exact .inr ⟨.displayName, by decide⟩
  · exact .inr ⟨.minLength, by decide⟩
  · exact .inr ⟨.minLength, by decide⟩
  · exact .inr ⟨.maxLength, by decide⟩
  · exact .inr ⟨.maxLength, by decide⟩
  · exact .inl rfl

/-- Which of two synonyms comes first does not matter. -/
theorem Synonyms.symm {key other : String} (synonyms : Synonyms key other) :
    Synonyms other key := by
  -- Being spelled by one attribute has no direction.
  rcases synonyms with rfl | ⟨a, first, second⟩
  · exact .inl rfl
  · exact .inr ⟨a, second, first⟩

/-- Synonyms spell the same attributes. -/
theorem Synonyms.mem_spellings_iff {key other : String} (synonyms : Synonyms key other)
    (a : Attribute) : key ∈ a.spellings ↔ other ∈ a.spellings := by
  -- Equal keys spell the same; different ones spell one attribute, and no key spells two.
  rcases synonyms with rfl | ⟨b, first, second⟩
  · exact Iff.rfl
  · -- Both spell one attribute, so neither spells another.
    constructor
    · intro spelled
      exact eq_of_mem_spellings first spelled ▸ second
    · intro spelled
      exact eq_of_mem_spellings second spelled ▸ first

/-- A synonym of a synonym is one too. -/
theorem Synonyms.trans {key other another : String} (synonyms : Synonyms key other)
    (further : Synonyms other another) : Synonyms key another := by
  -- The key in the middle spells one attribute, which the outer two spell then.
  rcases synonyms with rfl | ⟨a, first, second⟩
  · exact further
  · exact .inr ⟨a, first, (further.mem_spellings_iff a).1 second⟩

/-- Only the key of the type is a synonym of it. -/
theorem Synonyms.eq_typeKey_iff {key other : String} (synonyms : Synonyms key other) :
    key = typeKey ↔ other = typeKey := by
  -- The key of the type spells no attribute, so it has no other spelling.
  rcases synonyms with rfl | ⟨a, first, second⟩
  · exact Iff.rfl
  · refine iff_of_false ?_ ?_ <;> rintro rfl
    · exact typeKey_not_mem_spellings a first
    · exact typeKey_not_mem_spellings a second

/-- No spelling of an attribute falls between two spellings of another one. -/
theorem lt_iff_of_mem_spellings {a b : Attribute} (different : a ≠ b) {key other : String}
    (first : key ∈ a.spellings) (second : other ∈ b.spellings) : key < other ↔ a.name < b.name := by
  -- The spellings of one attribute are close together, so those of two never interleave.
  have table : ∀ a ∈ all, ∀ b ∈ all, a ≠ b → ∀ key ∈ a.spellings, ∀ other ∈ b.spellings,
      (key < other ↔ a.name < b.name) := by decide +kernel
  exact table a (by cases a <;> decide) b (by cases b <;> decide) different key first other second

end Attribute

open Attribute (Synonyms)

namespace Mapping

/-- The mapping with each chosen key in its other spelling. -/
def respell (m : Mapping) (chosen : String → Bool) : Mapping :=
  ofList (m.entries.map fun entry =>
    (if chosen entry.1 then Attribute.respell entry.1 else entry.1, entry.2))

/-- No attribute occurs under two spellings. -/
def SpellsOnce (m : Mapping) : Prop :=
  ∀ a, ∀ key ∈ Attribute.spellings a, ∀ other ∈ Attribute.spellings a,
    (m.get? key).isSome = true → (m.get? other).isSome = true → key = other

/-- The mapping without what is bound to a key. -/
def without (m : Mapping) (key : String) : Mapping :=
  ⟨m.entries.filter fun entry => decide (entry.1 ≠ key), List.Pairwise.filter _ m.increasing⟩

/-- A key is bound to a value exactly if they are an entry. -/
theorem get?_eq_some_iff {m : Mapping} {key : String} {value : Raw} :
    m.get? key = some value ↔ (key, value) ∈ m.entries :=
  -- Keys increase, so a key has one value.
  Entries.lookup_eq_some_iff m.increasing

/-- Where no attribute occurs twice, synonyms are the same key. -/
theorem SpellsOnce.eq_of_synonyms {m : Mapping} (once : m.SpellsOnce)
    {entry other : String × Raw} (member : entry ∈ m.entries) (among : other ∈ m.entries)
    (synonyms : Synonyms entry.1 other.1) : entry.1 = other.1 := by
  -- Two keys of the mapping that spell one attribute are the same key.
  rcases synonyms with same | ⟨a, first, second⟩
  · exact same
  · have here := get?_eq_some_iff.2 member
    have there := get?_eq_some_iff.2 among
    exact once a _ first _ second (by rw [here]; rfl) (by rw [there]; rfl)

/-- Mappings with the same values under synonyms, in which no attribute occurs twice. -/
structure Respelled (first second : Mapping) : Prop where
  forth : ∀ entry ∈ first.entries, ∃ other ∈ second.entries,
    Synonyms entry.1 other.1 ∧ entry.2 = other.2
  back : ∀ other ∈ second.entries, ∃ entry ∈ first.entries,
    Synonyms entry.1 other.1 ∧ entry.2 = other.2
  once : first.SpellsOnce
  still : second.SpellsOnce

/-- Keys in other spellings lead to a respelled mapping, if no attribute occurs twice. -/
theorem SpellsOnce.respelled {m : Mapping} (once : m.SpellsOnce) (chosen : String → Bool) :
    m.Respelled (m.respell chosen) := by
  let spell (key : String) : String := if chosen key then Attribute.respell key else key
  have synonyms (key : String) : Synonyms key (spell key) := by
    show Synonyms key (if _ then _ else _)
    split
    · exact Attribute.synonyms_respell key
    · exact .inl rfl
  -- Keys that become synonyms have been synonyms before, so they are the same key.
  have unique : ∀ entry ∈ m.entries, ∀ other ∈ m.entries,
      Synonyms (spell entry.1) (spell other.1) → entry.1 = other.1 := by
    intro entry member other among same
    have back := (same.trans (synonyms other.1).symm)
    exact once.eq_of_synonyms member among ((synonyms entry.1).trans back)
  have distinct : (m.entries.map fun entry => (spell entry.1, entry.2)).Pairwise
      fun left right => left.1 ≠ right.1 := by
    refine List.pairwise_map.2 (m.increasing.imp_of_mem fun member among below same => ?_)
    exact String.ne_of_lt below (unique _ member _ among (.inl same))
  -- So sorting overwrites nothing.
  have members (other : String × Raw) : other ∈ (m.respell chosen).entries ↔
      ∃ entry ∈ m.entries, (spell entry.1, entry.2) = other := by
    rw [respell, ofList, Entries.mem_sort distinct, List.mem_map]
  refine ⟨fun entry member => ?_, fun other among => ?_, once, ?_⟩
  · exact ⟨_, (members _).2 ⟨entry, member, rfl⟩, synonyms entry.1, rfl⟩
  · obtain ⟨entry, member, rfl⟩ := (members other).1 among
    exact ⟨entry, member, synonyms entry.1, rfl⟩
  · -- Two spellings in the respelled mapping come from two in the given one, which are the same.
    intro a key first other second here there
    obtain ⟨value, here⟩ := Option.isSome_iff_exists.1 here
    obtain ⟨value', there⟩ := Option.isSome_iff_exists.1 there
    obtain ⟨entry, member, same⟩ := (members _).1 (get?_eq_some_iff.1 here)
    obtain ⟨entry', among, same'⟩ := (members _).1 (get?_eq_some_iff.1 there)
    obtain ⟨rfl, _⟩ := Prod.mk.inj same
    obtain ⟨rfl, _⟩ := Prod.mk.inj same'
    rw [unique entry member entry' among (.inr ⟨a, first, second⟩)]

namespace Respelled

variable {first second : Mapping}

/-- Which of two mappings is the respelled one does not matter. -/
theorem symm (respelled : first.Respelled second) : second.Respelled first where
  forth other among := by
    obtain ⟨entry, member, synonyms, same⟩ := respelled.back other among
    exact ⟨entry, member, synonyms.symm, same.symm⟩
  back entry member := by
    obtain ⟨other, among, synonyms, same⟩ := respelled.forth entry member
    exact ⟨other, among, synonyms.symm, same.symm⟩
  once := respelled.still
  still := respelled.once

/-- A declared type is declared by the other mapping too. -/
theorem get?_typeKey_of_some (respelled : first.Respelled second) {token : Raw}
    (declared : first.get? typeKey = some token) : second.get? typeKey = some token := by
  -- The entry of the type keeps its key, as that key has no synonym.
  obtain ⟨⟨key, value⟩, among, synonyms, same⟩ :=
    respelled.forth _ (get?_eq_some_iff.1 declared)
  obtain rfl : key = typeKey := synonyms.eq_typeKey_iff.1 rfl
  cases same
  exact get?_eq_some_iff.2 among

/-- The type is declared alike. -/
theorem get?_typeKey (respelled : first.Respelled second) :
    first.get? typeKey = second.get? typeKey := by
  -- A type that one of the mappings declares is declared by the other.
  refine Option.ext fun token => ⟨fun declared => ?_, fun declared => ?_⟩
  · exact respelled.get?_typeKey_of_some declared
  · exact respelled.symm.get?_typeKey_of_some declared

/-- Entries under synonyms do not apply to the same types. -/
theorem inapplicable_iff {entry other : String × Raw} (synonyms : Synonyms entry.1 other.1)
    (type : ParameterType) : Inapplicable type entry ↔ Inapplicable type other := by
  -- Whether a key applies depends on the attribute that it spells.
  rw [Inapplicable, Inapplicable, Ne, synonyms.eq_typeKey_iff]
  simp only [synonyms.mem_spellings_iff, ne_eq]

/-- Of entries under synonyms with the same value, both are rejected or none is. -/
theorem rejected_iff {entry other : String × Raw} (synonyms : Synonyms entry.1 other.1)
    (same : entry.2 = other.2) : Rejected entry ↔ Rejected other := by
  -- Whether a value is rejected depends on the attribute and not on its spelling.
  simp only [Rejected, synonyms.mem_spellings_iff, same]

/-- Where all keys of one mapping apply to a type, all those of the other one do. -/
theorem applicable (respelled : first.Respelled second) {type : ParameterType}
    (applicable : ∀ entry ∈ first.entries, ¬ Inapplicable type entry) :
    ∀ other ∈ second.entries, ¬ Inapplicable type other := by
  -- Every entry of the second mapping respells one of the first.
  intro other among
  obtain ⟨entry, member, synonyms, _⟩ := respelled.back other among
  exact mt (inapplicable_iff synonyms type).2 (applicable entry member)

/-- The least rejected key of one mapping is a synonym of that of the other one. -/
theorem least_rejected (respelled : first.Respelled second) {entry : String × Raw}
    (least : Entries.Least first.entries Rejected entry) :
    ∃ other, Entries.Least second.entries Rejected other ∧ Synonyms entry.1 other.1 ∧
      entry.2 = other.2 := by
  obtain ⟨member, rejected, minimal⟩ := least
  obtain ⟨other, among, synonyms, same⟩ := respelled.forth entry member
  refine ⟨other, ⟨among, (rejected_iff synonyms same).1 rejected, ?_⟩, synonyms, same⟩
  intro another inside again
  -- Any other rejected entry comes from one whose key is not below the least.
  obtain ⟨origin, there, known, kept⟩ := respelled.back another inside
  have below := minimal origin there ((rejected_iff known kept).2 again)
  -- The keys stand in the same order as the attributes that they spell, if these differ.
  obtain ⟨a, _, spelled, _⟩ := rejected
  obtain ⟨b, _, spelled', _⟩ := again
  by_cases alike : a = b
  · have here := (synonyms.mem_spellings_iff a).1 spelled
    have key := respelled.still.eq_of_synonyms among inside (.inr ⟨a, here, alike ▸ spelled'⟩)
    exact key ▸ String.le_refl _
  · have here := (synonyms.mem_spellings_iff a).1 spelled
    have back := (known.mem_spellings_iff b).2 spelled'
    refine Entries.le_of_lt ((Attribute.lt_iff_of_mem_spellings alike here spelled').2 ?_)
    refine (Attribute.lt_iff_of_mem_spellings alike spelled back).1 (String.not_le.1 fun above => ?_)
    exact alike (Attribute.eq_of_mem_spellings spelled (String.le_antisymm above below ▸ back))

/-- Slots that hold the values of one mapping hold those of the other one. -/
theorem holdGreatest (respelled : first.Respelled second) {slots : Slots}
    (hold : slots.HoldGreatest first.entries) : slots.HoldGreatest second.entries := by
  -- The slots that are filled are those of the attributes that are spelled in either mapping.
  refine ⟨fun a => (hold.filled a).trans ⟨?_, ?_⟩, fun a other greatest => ?_⟩
  · rintro ⟨entry, member, spelled⟩
    obtain ⟨other, among, synonyms, _⟩ := respelled.forth entry member
    exact ⟨other, among, (synonyms.mem_spellings_iff a).1 spelled⟩
  · rintro ⟨other, among, spelled⟩
    obtain ⟨entry, member, synonyms, _⟩ := respelled.back other among
    exact ⟨entry, member, (synonyms.mem_spellings_iff a).2 spelled⟩
  · -- The only key that spells the attribute is the greatest.
    obtain ⟨among, spelled, _⟩ := greatest
    obtain ⟨entry, member, synonyms, same⟩ := respelled.back other among
    have here := (synonyms.mem_spellings_iff a).2 spelled
    rw [← same]
    refine hold.held a entry ⟨member, here, fun another inside again => ?_⟩
    have key := respelled.once.eq_of_synonyms inside member (.inr ⟨a, again, here⟩)
    exact key ▸ String.le_refl _

end Respelled

end Mapping

/-- Results that are the same, up to the key that is named where a key does not apply to a type. -/
inductive AlikeButKey : Except Refusal Parameter → Except Refusal Parameter → Prop where
  | built (p : Parameter) : AlikeButKey (.ok p) (.ok p)
  | unknownType (parameter token : String) :
    AlikeButKey (.error (.unknownType parameter token)) (.error (.unknownType parameter token))
  | inapplicable (parameter key other : String) (type : ParameterType) :
    AlikeButKey (.error (.inapplicable parameter key type))
      (.error (.inapplicable parameter other type))
  | invalidValue (parameter : String) (a : Attribute) (value : String) (reason : ValueFault) :
    AlikeButKey (.error (.invalidValue parameter a value reason))
      (.error (.invalidValue parameter a value reason))

/-- A respelled mapping has the same verdict, up to the key that does not apply. -/
theorem Verdict.respelled {s : Setting} {name : String} {first second : Mapping}
    {result : Except Refusal Parameter} (verdict : Verdict s name first result)
    (respelled : first.Respelled second) :
    ∃ other, Verdict s name second other ∧ AlikeButKey result other := by
  -- The type is declared alike, and each gate finds the same faults.
  cases verdict with
  | unknownType unknown =>
    rw [Mapping.DeclaresUnknown, respelled.get?_typeKey] at unknown
    exact ⟨_, .unknownType unknown, .unknownType _ _⟩
  | inapplicable declares least =>
    rw [Mapping.Declares, respelled.get?_typeKey] at declares
    obtain ⟨other, among, synonyms, _⟩ := respelled.forth _ least.1
    have faulty := (Mapping.Respelled.inapplicable_iff synonyms _).1 least.2.1
    -- Which key is the least may change, since keys that spell nothing fall between spellings.
    obtain ⟨another, least'⟩ := Entries.exists_least second.increasing ⟨other, among, faulty⟩
    exact ⟨_, .inapplicable declares least', .inapplicable _ _ _ _⟩
  | rejected declares applicable least spelled refused =>
    rw [Mapping.Declares, respelled.get?_typeKey] at declares
    obtain ⟨other, least', synonyms, same⟩ := respelled.least_rejected least
    rw [same] at refused
    refine ⟨_, .rejected declares (respelled.applicable applicable) least'
      ((synonyms.mem_spellings_iff _).1 spelled) refused, ?_⟩
    rw [same]
    exact .invalidValue _ _ _ _
  | built declares applicable accepted hold =>
    rw [Mapping.Declares, respelled.get?_typeKey] at declares
    refine ⟨_, .built declares (respelled.applicable applicable) (fun other among rejected => ?_)
      (respelled.holdGreatest hold), .built _⟩
    -- What the respelled mapping declares is declared in the first one too.
    obtain ⟨entry, member, synonyms, same⟩ := respelled.back other among
    exact accepted entry member ((Mapping.Respelled.rejected_iff synonyms same).2 rejected)

/-- The entries of other keys are kept. -/
theorem Mapping.mem_without {m : Mapping} {key : String} {entry : String × Raw} :
    entry ∈ (m.without key).entries ↔ entry ∈ m.entries ∧ entry.1 ≠ key := by
  -- Leaving a key out is filtering by that key.
  simp [without]

/-- Slots that hold the values of a mapping hold them without a key that is not the canonical one of
its attribute, if the canonical one is there. -/
theorem Slots.HoldGreatest.without {slots : Slots} {m : Mapping} {a : Attribute} {key : String}
    {value : Raw} (hold : slots.HoldGreatest m.entries) (spelled : key ∈ a.spellings)
    (other : key ≠ a.name) (canonical : (a.name, value) ∈ m.entries) :
    slots.HoldGreatest (m.without key).entries := by
  -- The canonical key stays, so every attribute that was spelled still is.
  have kept : (a.name, value) ∈ (m.without key).entries :=
    Mapping.mem_without.2 ⟨canonical, other.symm⟩
  refine ⟨fun b => (hold.filled b).trans ⟨?_, ?_⟩, fun b entry greatest => ?_⟩
  · rintro ⟨entry, member, spells⟩
    by_cases same : entry.1 = key
    · -- The canonical key spells the attribute too.
      obtain rfl := Attribute.eq_of_mem_spellings spelled (same ▸ spells)
      exact ⟨_, kept, a.name_mem_spellings⟩
    · exact ⟨entry, Mapping.mem_without.2 ⟨member, same⟩, spells⟩
  · rintro ⟨entry, member, spells⟩
    exact ⟨entry, (Mapping.mem_without.1 member).1, spells⟩
  · -- The key that is left out is below the canonical one, so it has not been the greatest.
    obtain ⟨member, spells, maximal⟩ := greatest
    refine hold.held b entry
      ⟨(Mapping.mem_without.1 member).1, spells, fun another inside again => ?_⟩
    by_cases same : another.1 = key
    · have again : another.1 ∈ b.spellings := again
      obtain rfl := Attribute.eq_of_mem_spellings spelled (same ▸ again)
      calc another.1 = key := same
        _ ≤ a.name := Attribute.le_name_of_mem_spellings spelled
        _ ≤ entry.1 := maximal _ kept a.name_mem_spellings
    · exact maximal another (Mapping.mem_without.2 ⟨inside, same⟩) again

/-- Without a key that is not the canonical one of its attribute, a mapping that is built leads to the
same parameter, if the canonical one is there. -/
theorem Verdict.without {s : Setting} {name : String} {m : Mapping} {p : Parameter} {a : Attribute}
    {key : String} {value : Raw} (verdict : Verdict s name m (.ok p)) (spelled : key ∈ a.spellings)
    (other : key ≠ a.name) (canonical : m.get? a.name = some value) :
    Verdict s name (m.without key) (.ok p) := by
  -- The key of the type spells no attribute, so it is not the one that is left out.
  have type : (m.without key).get? typeKey = m.get? typeKey := by
    refine Option.ext fun token => ?_
    rw [Mapping.get?_eq_some_iff, Mapping.get?_eq_some_iff, Mapping.mem_without]
    exact and_iff_left fun same : typeKey = key =>
      Attribute.typeKey_not_mem_spellings a (same ▸ spelled)
  cases verdict with
  | built declares applicable accepted hold =>
    rw [Mapping.Declares, ← type] at declares
    exact .built declares (fun entry member => applicable entry (Mapping.mem_without.1 member).1)
      (fun entry member => accepted entry (Mapping.mem_without.1 member).1)
      (hold.without spelled other (Mapping.get?_eq_some_iff.1 canonical))

/-- A mapping with a value that its attribute does not accept is not built. -/
theorem Verdict.accepts {s : Setting} {name : String} {m : Mapping} {p : Parameter} {a : Attribute}
    {key : String} {value : Raw} (verdict : Verdict s name m (.ok p)) (spelled : key ∈ a.spellings)
    (given : m.get? key = some value) : a.Accepts value := by
  -- A parameter is built only if no entry is rejected.
  cases verdict with
  | built declares applicable accepted hold =>
    have kept := accepted _ (Mapping.get?_eq_some_iff.1 given)
    rw [Attribute.accepts_iff]
    cases checked : a.check value with
    | ok content => exact ⟨content, rfl⟩
    | error reason => exact absurd ⟨a, reason, spelled, checked⟩ kept

/-- Where no attribute occurs under two spellings, any keys can be spelled the other way: the result is
the same, up to the key that is named where a key does not apply to a type. Where an attribute occurs
under both, a parameter that is built is the one without the key that is not canonical, and none is
built if one of the two values is not acceptable. -/
theorem construct_respelled (s : Setting) (gate : Gate) (name : String) (m : Mapping) :
    let result (mapping : Mapping) := (s.construct gate name (.single mapping)).value
    (m.SpellsOnce → ∀ chosen, AlikeButKey (result m) (result (m.respell chosen))) ∧
    ∀ a, ∀ key ∈ Attribute.spellings a, key ≠ a.name → ∀ value canonical,
      m.get? key = some value → m.get? a.name = some canonical →
        (∀ p, result m = .ok p → result (m.without key) = .ok p) ∧
        (¬ a.Accepts value ∨ ¬ a.Accepts canonical → ∃ refusal, result m = .error refusal) := by
  intro result
  have verdict : Verdict s name m (result m) := Setting.construct_single_iff_verdict.1 rfl
  refine ⟨fun once chosen => ?_, fun a key spelled other value canonical given there =>
    ⟨fun p built => ?_, fun unacceptable => ?_⟩⟩
  · obtain ⟨respelt, found, alike⟩ := verdict.respelled (once.respelled chosen)
    have same : result (m.respell chosen) = respelt := Setting.construct_single_iff_verdict.2 found
    rwa [same]
  · rw [built] at verdict
    exact Setting.construct_single_iff_verdict.2 (verdict.without spelled other there)
  · cases built : result m with
    | error refusal => exact ⟨refusal, rfl⟩
    | ok p =>
      -- A mapping that is built has acceptable values under either key.
      rw [built] at verdict
      rcases unacceptable with refused | refused
      · exact absurd (verdict.accepts spelled given) refused
      · exact absurd (verdict.accepts a.name_mem_spellings there) refused

/-- A length that is a float is refused in either spelling, in front of another one that is null. Of
two display names the one behind the underscore counts, but not if the other one is null. -/
theorem construct_respelled_of_lengths :
    let s : Setting := ⟨.query, false, false, false⟩
    let result (mapping : Mapping) := (s.construct none "p" (.single mapping)).value
    let lengths : Mapping := ⟨[("maxLength", .float 2), ("min_length", .null)],
      by unfold Entries.Increasing; decide⟩
    let names (first : Raw) : Mapping := ⟨[("displayName", first), ("display_name", .string "b")],
      List.pairwise_pair.2 (show "displayName" < "display_name" by decide)⟩
    lengths.SpellsOnce ∧
      result (lengths.respell fun _ => true) =
        .error (.invalidValue "p" .maxLength "<redacted>" (.wrongKind .integer .float)) ∧
      "displayName" ∈ Attribute.displayName.spellings ∧
      "displayName" ≠ Attribute.displayName.name ∧
      (∃ p, result (names (.string "a")) = .ok p ∧
        result ((names (.string "a")).without "displayName") = .ok p) ∧
      ¬ Attribute.displayName.Accepts .null ∧ ∃ refusal, result (names .null) = .error refusal := by
  intro s result lengths names
  -- No attribute has two spellings in the first mapping, and one has in the others.
  have once : lengths.SpellsOnce := by
    intro a
    cases a <;> decide
  have capital : "displayName" ∈ Attribute.displayName.spellings := by decide
  have other : "displayName" ≠ Attribute.displayName.name := by decide
  have null : ¬ Attribute.displayName.Accepts .null := by simp [Attribute.Accepts]
  obtain ⟨_, named⟩ := construct_respelled s none "p" (names (.string "a"))
  obtain ⟨kept, _⟩ := named .displayName _ capital other _ _ rfl rfl
  obtain ⟨_, unnamed⟩ := construct_respelled s none "p" (names .null)
  obtain ⟨_, fails⟩ := unnamed .displayName _ capital other _ _ rfl rfl
  have succeeds : (result (names (.string "a"))).toBool = true := rfl
  obtain ⟨p, built⟩ := exists_eq_ok succeeds
  have refused : result lengths =
      .error (.invalidValue "p" .maxLength "<redacted>" (.wrongKind .integer .float)) := rfl
  have alike : AlikeButKey (result lengths) (result (lengths.respell fun _ => true)) :=
    (construct_respelled s none "p" lengths).1 once fun _ => true
  refine ⟨once, ?_, capital, other, ⟨p, built, kept p built⟩, null, fails (.inl null)⟩
  -- Of the two refusals, one is known and the other differs in its key at most.
  rw [refused] at alike
  generalize result (lengths.respell fun _ => true) = again at alike ⊢
  cases alike
  rfl

end NamedParams
