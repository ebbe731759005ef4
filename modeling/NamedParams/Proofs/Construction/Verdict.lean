import NamedParams.Construction
import NamedParams.Proofs.Attribute
import NamedParams.Proofs.Entries
import NamedParams.Proofs.Log.Traced
import NamedParams.Proofs.Slots

/-! Constructing a parameter of one type passes three gates, each at its least faulty key. -/

namespace NamedParams

open Log (Gate)

/-- A type that a mapping declares, which is a string where nothing is declared. -/
def Mapping.Declares (m : Mapping) (type : ParameterType) : Prop :=
  m.get? typeKey = some (.string type.name) ∨
    type = .string ∧ (m.get? typeKey = none ∨ m.get? typeKey = some .null)

/-- A declared token that names no type. -/
def Mapping.DeclaresUnknown (m : Mapping) (token : Raw) : Prop :=
  m.get? typeKey = some token ∧ token ≠ .null ∧ ∀ type : ParameterType, token ≠ .string type.name

/-- A token as it is if it is a string, and as JSON text otherwise. -/
def Raw.tokenText (token : Raw) : String := token.string?.getD token.text

/-- An entry whose key is not that of the type and spells no attribute legal for the type. -/
def Inapplicable (type : ParameterType) (entry : String × Raw) : Prop :=
  entry.1 ≠ typeKey ∧ ∀ a ∈ Attribute.legal type, entry.1 ∉ a.spellings

/-- An entry whose value is refused by the attribute that its key spells. -/
def Rejected (entry : String × Raw) : Prop :=
  ∃ a reason, entry.1 ∈ Attribute.spellings a ∧ a.check entry.2 = .error reason

/-- Each slot is filled exactly if some key spells its attribute, and holds the checked value of
the greatest such key. -/
structure Slots.HoldGreatest (slots : Slots) (entries : List (String × Raw)) : Prop where
  filled : ∀ a, slots.isFilled a = true ↔ ∃ entry ∈ entries, entry.1 ∈ a.spellings
  held : ∀ a entry, Entries.Greatest entries (·.1 ∈ Attribute.spellings a) entry →
    ∃ content, a.check entry.2 = .ok content ∧ slots.content? a = some content

/-- What a mapping leads to: its type is judged first, then all its keys, then all its values. -/
inductive Verdict (s : Setting) (name : String) (mapping : Mapping) :
    Except Refusal Parameter → Prop where
  | unknownType {token : Raw} (unknown : mapping.DeclaresUnknown token) :
    Verdict s name mapping (.error (.unknownType name token.tokenText))
  | inapplicable {type : ParameterType} {entry : String × Raw} (declares : mapping.Declares type)
    (least : Entries.Least mapping.entries (Inapplicable type) entry) :
    Verdict s name mapping (.error (.inapplicable name entry.1 type))
  | rejected {type : ParameterType} {entry : String × Raw} {a : Attribute} {reason : ValueFault}
    (declares : mapping.Declares type)
    (applicable : ∀ entry ∈ mapping.entries, ¬ Inapplicable type entry)
    (least : Entries.Least mapping.entries Rejected entry)
    (spelled : entry.1 ∈ a.spellings) (refused : a.check entry.2 = .error reason) :
    Verdict s name mapping (.error (.invalidValue name a (s.showValue entry.2) reason))
  | built {type : ParameterType} {slots : Slots} (declares : mapping.Declares type)
    (applicable : ∀ entry ∈ mapping.entries, ¬ Inapplicable type entry)
    (accepted : ∀ entry ∈ mapping.entries, ¬ Rejected entry)
    (hold : slots.HoldGreatest mapping.entries) :
    Verdict s name mapping (.ok (.single ⟨name, s.location, ⟨type, slots⟩⟩))

/-- A type is resolved exactly if it is declared. -/
theorem resolve_of_declares {m : Mapping} {type : ParameterType} (declares : m.Declares type) :
    ParameterType.resolve (m.get? typeKey) = .ok type := by
  -- Every type is read from its own name, and nothing or null stands for a string.
  rcases declares with named | ⟨rfl, absent | null⟩
  · rw [named]
    cases type <;> rfl
  · rw [absent]; rfl
  · rw [null]; rfl

/-- A token that names no type is reported. -/
theorem resolve_of_declaresUnknown {m : Mapping} {token : Raw}
    (unknown : m.DeclaresUnknown token) :
    ParameterType.resolve (m.get? typeKey) = .error token.tokenText := by
  -- Only a string is compared with the names, and any other token is reported as its text.
  obtain ⟨found, notNull, unnamed⟩ := unknown
  rw [found]
  cases token with
  | null => exact absurd rfl notNull
  | string text =>
    -- Each name that is read belongs to a type.
    have unread : ParameterType.ofName? text = none := by
      cases read : ParameterType.ofName? text with
      | none => rfl
      | some type =>
        refine absurd ?_ (unnamed type)
        unfold ParameterType.ofName? at read
        split at read <;> cases read <;> rfl
    simp [ParameterType.resolve, unread, Raw.tokenText, Raw.string?]
  | _ => simp [ParameterType.resolve, Raw.tokenText, Raw.string?]

/-- One type is declared. -/
theorem Mapping.Declares.unique {m : Mapping} {type other : ParameterType}
    (declares : m.Declares type) (again : m.Declares other) : type = other :=
  -- The type that is resolved is one.
  Except.ok.inj ((resolve_of_declares declares).symm.trans (resolve_of_declares again))

/-- Where a type is declared, no unknown token is. -/
theorem Mapping.Declares.not_declaresUnknown {m : Mapping} {type : ParameterType}
    (declares : m.Declares type) (token : Raw) : ¬ m.DeclaresUnknown token := by
  -- What is resolved as a type is not also reported as unknown.
  intro unknown
  cases (resolve_of_declares declares).symm.trans (resolve_of_declaresUnknown unknown)

/-- A mapping declares a type or an unknown token. -/
theorem declares_or_unknown (m : Mapping) :
    (∃ type, m.Declares type) ∨ ∃ token, m.DeclaresUnknown token := by
  -- Either nothing is declared, or null, or the name of a type, or some other token.
  cases found : m.get? typeKey with
  | none => exact .inl ⟨.string, .inr ⟨rfl, .inl found⟩⟩
  | some token =>
    by_cases null : token = .null
    · exact .inl ⟨.string, .inr ⟨rfl, .inr (null ▸ found)⟩⟩
    · by_cases named : ∃ type : ParameterType, token = .string type.name
      · obtain ⟨type, rfl⟩ := named
        exact .inl ⟨type, .inl found⟩
      · exact .inr ⟨token, found, null, fun type same => named ⟨type, same⟩⟩

/-- The attribute that the key of an entry spells, with the value of the entry. -/
def spelledEntry (entry : String × Raw) : Option (Attribute × Raw) :=
  (Attribute.ofKey? entry.1).map fun a => (a, entry.2)

/-- An entry gives an attribute and a value exactly if its key spells the attribute. -/
theorem spelledEntry_eq_some_iff {entry : String × Raw} {a : Attribute} {value : Raw} :
    spelledEntry entry = some (a, value) ↔ entry.1 ∈ a.spellings ∧ entry.2 = value := by
  -- The reader of keys knows the spellings of every attribute.
  simp only [spelledEntry, Option.map_eq_some_iff, Attribute.ofKey?_eq_some_iff, Prod.mk.injEq]
  constructor
  · intro read
    obtain ⟨_, spelled, rfl, same⟩ := read
    exact ⟨spelled, same⟩
  · intro spells
    obtain ⟨spelled, same⟩ := spells
    exact ⟨a, spelled, rfl, same⟩

/-- A key that applies is read as an attribute, unless it is the key of the type. -/
theorem filter_of_applicable {type : ParameterType} {entry : String × Raw}
    (applicable : ¬ Inapplicable type entry) (notType : entry.1 ≠ typeKey) :
    ∃ a, (Attribute.ofKey? entry.1).filter (·.appliesTo type) = some a ∧
      spelledEntry entry = some (a, entry.2) := by
  -- Some legal attribute is spelled by the key, and it is the one that the key is read as.
  simp only [Inapplicable, not_and, not_forall, Classical.not_not] at applicable
  obtain ⟨a, legal, spelled⟩ := applicable notType
  have read := Attribute.ofKey?_eq_some_iff.2 spelled
  have applies := Attribute.appliesTo_iff.2 legal
  exact ⟨a, Option.filter_eq_some_iff.2 ⟨read, applies⟩, by simp [spelledEntry, read]⟩

/-- A key that does not apply is read as no attribute. -/
theorem filter_of_inapplicable {type : ParameterType} {entry : String × Raw}
    (faulty : Inapplicable type entry) :
    (Attribute.ofKey? entry.1).filter (·.appliesTo type) = none := by
  -- What the key spells, if anything, is not legal.
  refine Option.filter_eq_none_iff.2 fun a read applies => ?_
  exact faulty.2 a (Attribute.appliesTo_iff.1 applies) (Attribute.ofKey?_eq_some_iff.1 read)

/-- Keys that all apply are read as the attributes that they spell. -/
theorem readAttributes_ok (name : String) {type : ParameterType} {entries : List (String × Raw)}
    (applicable : ∀ entry ∈ entries, ¬ Inapplicable type entry) :
    readAttributes name type entries = .ok (entries.filterMap spelledEntry) := by
  -- Induct over the entries: each one adds what it spells in front of the others.
  induction entries with
  | nil => rfl
  | cons entry rest ih =>
    have others := ih fun other later => applicable other (List.mem_cons_of_mem _ later)
    by_cases ofType : entry.1 = typeKey
    · -- The key of the type spells no attribute.
      have dropped : spelledEntry entry = none := by simp [spelledEntry, ofType]; rfl
      simp [readAttributes, ofType, others, dropped]
    · obtain ⟨a, read, spelled⟩ := filter_of_applicable (applicable entry List.mem_cons_self) ofType
      simp [readAttributes, ofType, read, others, spelled]

/-- The first key that does not apply is reported. -/
theorem readAttributes_error {name : String} {type : ParameterType}
    {before after : List (String × Raw)} {entry : String × Raw}
    (applicable : ∀ other ∈ before, ¬ Inapplicable type other) (faulty : Inapplicable type entry) :
    readAttributes name type (before ++ entry :: after) =
      .error (.inapplicable name entry.1 type) := by
  -- The keys in front all apply, so the reading gets past each of them.
  induction before with
  | nil => simp [readAttributes, faulty.1, filter_of_inapplicable faulty]
  | cons head rest ih =>
    have later := ih fun other member => applicable other (List.mem_cons_of_mem _ member)
    by_cases ofType : head.1 = typeKey
    · simp [readAttributes, ofType, later]
    · obtain ⟨a, read, _⟩ := filter_of_applicable (applicable head List.mem_cons_self) ofType
      simp [readAttributes, ofType, read, later]

namespace Setting

variable (s : Setting) (gate : Gate) (name : String)

/-- The first value that is refused is reported. -/
theorem fillSlots_error {before after : List (Attribute × Raw)} {a : Attribute} {value : Raw}
    {reason : ValueFault}
    (accepted : ∀ entry ∈ before, ∃ content, entry.1.check entry.2 = .ok content)
    (refused : a.check value = .error reason) (slots : Slots) :
    (s.fillSlots gate name (before ++ (a, value) :: after) slots).value =
      .error (.invalidValue name a (s.showValue value) reason) := by
  -- The slots filled so far do not matter for what is refused.
  induction before generalizing slots with
  | nil =>
    have applied : slots.apply a value = .error reason := Slots.apply_eq_error_iff.2 refused
    simp [fillSlots, applied]
  | cons head rest ih =>
    have later := ih fun entry member => accepted entry (List.mem_cons_of_mem _ member)
    -- The head is accepted, so it only moves on to other slots.
    obtain ⟨content, checked⟩ := accepted head List.mem_cons_self
    rw [List.cons_append, fillSlots]
    split
    · rename_i applied
      simp [Slots.apply_eq_error_iff.1 applied] at checked
    · exact later _

/-- Values that are all accepted fill the slots, each slot with the last value given for it. -/
theorem fillSlots_ok {declared : List (Attribute × Raw)}
    (accepted : ∀ entry ∈ declared, ∃ content, entry.1.check entry.2 = .ok content)
    (slots : Slots) :
    ∃ filled, (s.fillSlots gate name declared slots).value = .ok filled ∧
      (∀ a, (∀ entry ∈ declared, entry.1 ≠ a) → filled.content? a = slots.content? a) ∧
      ∀ before a value after, declared = before ++ (a, value) :: after →
        (∀ entry ∈ after, entry.1 ≠ a) →
        ∃ content, a.check value = .ok content ∧ filled.content? a = some content := by
  -- Induct over the values: what a value writes stays until the same attribute is given again.
  induction declared generalizing slots with
  | nil => exact ⟨slots, rfl, fun _ _ => rfl, fun before _ _ _ split => by simp at split⟩
  | cons head rest ih =>
    have others := ih fun entry member => accepted entry (List.mem_cons_of_mem _ member)
    rw [fillSlots]
    split
    · rename_i applied
      obtain ⟨content, checked⟩ := accepted head List.mem_cons_self
      simp [Slots.apply_eq_error_iff.1 applied] at checked
    · rename_i middle applied
      -- The head writes its own slot and the rest continues with the slots written so far.
      obtain ⟨content, checked, kept⟩ := Slots.content?_apply applied
      obtain ⟨filled, result, untouched, last⟩ := others middle
      refine ⟨filled, result, fun a absent => ?_, fun before a value after split none => ?_⟩
      · -- An attribute that is not given at all is written neither by the head nor by the rest.
        have elsewhere := untouched a fun entry member =>
          absent entry (List.mem_cons_of_mem _ member)
        rw [elsewhere, kept a, if_neg (Ne.symm (absent head List.mem_cons_self))]
      · cases before with
        | nil =>
          -- The head is the last value of its attribute, so the rest leaves its slot alone.
          obtain ⟨rfl, rfl⟩ := List.cons.inj split
          exact ⟨content, checked, by rw [untouched a none, kept a, if_pos rfl]⟩
        | cons first front =>
          -- The last value of the attribute is among the rest.
          obtain ⟨_, split⟩ := List.cons.inj split
          exact last front a value after split none

/-- A value that is not refused is accepted. -/
theorem check_of_not_rejected {entries : List (String × Raw)}
    (accepted : ∀ entry ∈ entries, ¬ Rejected entry) :
    ∀ entry ∈ entries.filterMap spelledEntry, ∃ content, entry.1.check entry.2 = .ok content := by
  -- Every value that is checked stands under a key that spells its attribute.
  intro given member
  obtain ⟨a, value⟩ := given
  obtain ⟨entry, inside, spells⟩ := List.mem_filterMap.1 member
  obtain ⟨spelled, rfl⟩ := spelledEntry_eq_some_iff.1 spells
  cases checked : a.check entry.2 with
  | error reason => exact absurd ⟨a, reason, spelled, checked⟩ (accepted entry inside)
  | ok content => exact ⟨content, rfl⟩

/-- Values that are all accepted fill the slots, each slot with the value of its greatest key. -/
theorem fillSlots_hold {entries : List (String × Raw)} (increasing : Entries.Increasing entries)
    (accepted : ∀ entry ∈ entries, ¬ Rejected entry) :
    ∃ slots, (s.fillSlots gate name (entries.filterMap spelledEntry) .empty).value = .ok slots ∧
      slots.HoldGreatest entries := by
  -- Keys increase, so the last value given for an attribute is that of its greatest key.
  obtain ⟨slots, value, untouched, last⟩ :=
    fillSlots_ok s gate name (check_of_not_rejected accepted) .empty
  have held : ∀ a entry, Entries.Greatest entries (·.1 ∈ Attribute.spellings a) entry →
      ∃ content, a.check entry.2 = .ok content ∧ slots.content? a = some content := by
    -- The greatest key that spells the attribute comes last.
    intro a entry greatest
    obtain ⟨before, after, rfl, none⟩ := greatest.split increasing
    have pair := spelledEntry_eq_some_iff.2 ⟨greatest.2.1, rfl⟩
    refine last (before.filterMap spelledEntry) a entry.2 (after.filterMap spelledEntry)
      (by simp [pair]) ?_
    rintro ⟨b, value⟩ member rfl
    obtain ⟨other, behind, spells⟩ := List.mem_filterMap.1 member
    exact none other behind (spelledEntry_eq_some_iff.1 spells).1
  refine ⟨slots, value, ⟨fun a => ⟨fun here => ?_, fun spelled => ?_⟩, held⟩⟩
  · -- What no key spells stays empty.
    by_contra unspelled
    rw [Slots.isFilled_eq, untouched a, Slots.content?_empty] at here
    · simp at here
    · rintro ⟨b, value⟩ member rfl
      obtain ⟨entry, inside, spells⟩ := List.mem_filterMap.1 member
      exact unspelled ⟨entry, inside, (spelledEntry_eq_some_iff.1 spells).1⟩
  · -- What some key spells is filled from the greatest such key.
    obtain ⟨entry, greatest⟩ := Entries.exists_greatest increasing spelled
    obtain ⟨content, _, here⟩ := held a entry greatest
    simp [Slots.isFilled_eq, here]

/-- The values of the greatest keys determine the slots. -/
theorem holdGreatest_unique {entries : List (String × Raw)} {left right : Slots}
    (increasing : Entries.Increasing entries) (first : left.HoldGreatest entries)
    (second : right.HoldGreatest entries) : left = right := by
  -- Slots are compared by their contents, one attribute at a time.
  refine Slots.ext_content fun a => ?_
  by_cases spelled : ∃ entry ∈ entries, entry.1 ∈ a.spellings
  · -- Both hold what the attribute makes of the same value.
    obtain ⟨entry, greatest⟩ := Entries.exists_greatest increasing spelled
    obtain ⟨content, checked, here⟩ := first.held a entry greatest
    obtain ⟨other, same, there⟩ := second.held a entry greatest
    rw [checked] at same
    cases same
    rw [here, there]
  · -- Without a key, both are empty.
    have absent : ∀ slots : Slots, slots.HoldGreatest entries → slots.content? a = none := by
      intro slots hold
      have empty := mt (hold.filled a).1 spelled
      rw [Slots.isFilled_eq] at empty
      simpa using empty
    rw [absent left first, absent right second]

variable {s gate name}

/-- A single mapping is constructed as a parameter of one type. -/
theorem value_construct_single {mapping : Mapping} :
    (s.construct gate name (.single mapping)).value =
      (s.constructTyped gate name mapping).value.map .single := by
  -- What is logged afterwards does not change the value.
  simp only [construct, Log.Traced.value_bind]
  split <;> rfl

/-- A parameter of one type is constructed as its verdict says. -/
theorem constructTyped_of_verdict {mapping : Mapping} {result : Except Refusal Parameter}
    (verdict : Verdict s name mapping result) :
    (s.constructTyped gate name mapping).value.map .single = result := by
  -- Each gate is reached once the ones before it are passed.
  cases verdict with
  | unknownType unknown => simp [constructTyped, resolve_of_declaresUnknown unknown]
  | @inapplicable type entry declares least =>
    -- The mapping is read in the order of its keys, so the least faulty one comes first.
    obtain ⟨before, after, split, applicable⟩ := least.split mapping.increasing
    have read : readAttributes name type mapping.entries =
        .error (.inapplicable name entry.1 type) := by
      rw [split]
      exact readAttributes_error applicable least.2.1
    simp [constructTyped, resolve_of_declares declares, read]
  | @rejected type entry a reason declares applicable least spelled refused =>
    obtain ⟨before, after, split, accepted⟩ := least.split mapping.increasing
    have read := readAttributes_ok name applicable
    have pair := spelledEntry_eq_some_iff.2 ⟨spelled, rfl⟩
    -- The refused value stands behind the accepted ones.
    have fill : (s.fillSlots gate name (mapping.entries.filterMap spelledEntry) .empty).value =
        .error (.invalidValue name a (s.showValue entry.2) reason) := by
      rw [split, List.filterMap_append, List.filterMap_cons_some pair]
      exact fillSlots_error s gate name (check_of_not_rejected accepted) refused .empty
    simp [constructTyped, resolve_of_declares declares, read, fill]
  | built declares applicable accepted hold =>
    -- What fills the slots is determined by the mapping.
    have read := readAttributes_ok name applicable
    obtain ⟨slots, fill, filled⟩ :=
      fillSlots_hold s gate name mapping.increasing accepted
    cases holdGreatest_unique mapping.increasing filled hold
    simp [constructTyped, resolve_of_declares declares, read, fill]

end Setting

/-- Every mapping has a verdict. -/
theorem exists_verdict (s : Setting) (name : String) (mapping : Mapping) :
    ∃ result, Verdict s name mapping result := by
  -- The gates are tried one after the other, each at its least fault.
  rcases declares_or_unknown mapping with ⟨type, declares⟩ | ⟨token, unknown⟩
  · by_cases faulty : ∃ entry ∈ mapping.entries, Inapplicable type entry
    · obtain ⟨entry, least⟩ := Entries.exists_least mapping.increasing faulty
      exact ⟨_, .inapplicable declares least⟩
    · have applicable : ∀ entry ∈ mapping.entries, ¬ Inapplicable type entry :=
        fun entry member here => faulty ⟨entry, member, here⟩
      by_cases refused : ∃ entry ∈ mapping.entries, Rejected entry
      · obtain ⟨entry, least⟩ := Entries.exists_least mapping.increasing refused
        obtain ⟨a, reason, spelled, checked⟩ := least.2.1
        exact ⟨_, .rejected declares applicable least spelled checked⟩
      · -- The slots are the ones that the accepted values fill.
        have accepted : ∀ entry ∈ mapping.entries, ¬ Rejected entry :=
          fun entry member here => refused ⟨entry, member, here⟩
        obtain ⟨slots, _, hold⟩ := Setting.fillSlots_hold s none name mapping.increasing accepted
        exact ⟨_, .built declares applicable accepted hold⟩
  · exact ⟨_, .unknownType unknown⟩

/-- A parameter of one type is constructed exactly as its verdict says. -/
theorem constructTyped_eq_iff_verdict {s : Setting} (gate : Gate) {name : String}
    {mapping : Mapping} {result : Except Refusal Parameter} :
    (s.constructTyped gate name mapping).value.map .single = result ↔
      Verdict s name mapping result := by
  refine ⟨fun constructed => ?_, fun verdict => Setting.constructTyped_of_verdict verdict⟩
  -- Some verdict holds, and it is the one that is constructed.
  obtain ⟨other, verdict⟩ := exists_verdict s name mapping
  rw [Setting.constructTyped_of_verdict verdict] at constructed
  exact constructed ▸ verdict

/-- A parameter of one type is refused exactly if its verdict says so. -/
theorem Setting.constructTyped_eq_error_iff {s : Setting} {gate : Gate} {name : String}
    {mapping : Mapping} {refusal : Refusal} :
    (s.constructTyped gate name mapping).value = .error refusal ↔
      Verdict s name mapping (.error refusal) := by
  -- A refusal says the same with and without the alternatives around it.
  rw [← constructTyped_eq_iff_verdict gate, map_eq_error]

/-- A mapping leads to a result exactly if its verdict is that result. -/
theorem Setting.construct_single_iff_verdict {s : Setting} {gate : Gate} {name : String}
    {mapping : Mapping} {result : Except Refusal Parameter} :
    (s.construct gate name (.single mapping)).value = result ↔ Verdict s name mapping result := by
  rw [value_construct_single, constructTyped_eq_iff_verdict]

/-- A mapping is constructed exactly as its verdict says, and where both spellings of an attribute
occur, the canonical one is the greater key. -/
theorem construct_single_eq_iff_verdict (s : Setting) (gate : Gate) (name : String)
    (mapping : Mapping) (result : Except Refusal Parameter) :
    ((s.construct gate name (.single mapping)).value = result ↔ Verdict s name mapping result) ∧
      ∀ a, ∀ key ∈ Attribute.spellings a, key ≤ a.name := by
  -- One mapping is constructed as it is, and among two spellings the name is the greater one.
  refine ⟨?_, fun a key => Attribute.le_name_of_mem_spellings⟩
  rw [Setting.value_construct_single]
  exact constructTyped_eq_iff_verdict gate

/-- Of two spellings with unacceptable values, the one with the inner capital is reported. -/
theorem construct_two_spellings :
    let s : Setting :=
      ⟨.query, { logAttributes := false, logSuccess := false, includeValues := false }⟩
    let mapping : Mapping :=
      ⟨[("displayName", .integer 1), ("display_name", .null)], by unfold Entries.Increasing; decide⟩
    "displayName" ≤ Attribute.displayName.name ∧
      Verdict s "p" mapping
        (.error (.invalidValue "p" .displayName "<redacted>" (.wrongKind .string .integer))) :=
  ⟨(construct_single_eq_iff_verdict ⟨.query, false, false, false⟩ none "p" .empty
      (.error (.unknownType "p" ""))).2 .displayName "displayName" (by decide),
    (construct_single_eq_iff_verdict _ none "p" _ _).1.1 rfl⟩

end NamedParams
