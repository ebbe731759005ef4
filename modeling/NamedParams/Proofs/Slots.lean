import Mathlib.Data.Option.Basic
import NamedParams.Proofs.Entries
import NamedParams.Proofs.Results
import NamedParams.Slots

/-! The slots of a parameter behave as a finite map from attributes to checked contents. -/

namespace NamedParams

/-- What a filled slot holds, whichever attribute it belongs to. -/
inductive Content where
  | flag (value : Bool)
  | verbatim (value : Raw)
  | text (value : String)
  | length (value : Int64)
  | choices (values : List String)
  | pattern (value : Pattern)
  | bound (value : Bound)

/-- The decoded value that stands for a content. -/
def Content.toRaw : Content → Raw
  | .flag b => .boolean b
  | .verbatim value => value
  | .text s => .string s
  | .length n => .integer n
  | .choices list => .array (list.map .string)
  | .pattern p => .string p.source
  | .bound b => b.toRaw

/-- The content that an attribute makes of a value, or why the value is not acceptable. -/
def Attribute.check : Attribute → Raw → Except ValueFault Content
  | .required, value | .repeated, value => value.asBoolean.map .flag
  | .defaultValue, value | .example, value => .ok (.verbatim value)
  | .displayName, value | .description, value => value.asText.map .text
  | .minLength, value | .maxLength, value => value.asInteger.map .length
  | .choices, value => value.asChoices.map .choices
  | .pattern, value => value.asPattern.map .pattern
  | .minimum, value | .maximum, value => value.asBound.map .bound

/-- The content of the slot of an attribute, if the slot is filled. -/
def Slots.content? (slots : Slots) : Attribute → Option Content
  | .required => slots.required.map .flag
  | .repeated => slots.repeated.map .flag
  | .defaultValue => slots.defaultValue.map .verbatim
  | .example => slots.example?.map .verbatim
  | .displayName => slots.displayName.map .text
  | .description => slots.description.map .text
  | .minLength => slots.minLength.map .length
  | .maxLength => slots.maxLength.map .length
  | .choices => slots.choices.map .choices
  | .pattern => slots.pattern.map .pattern
  | .minimum => slots.minimum.map .bound
  | .maximum => slots.maximum.map .bound

/-- The members that are read are the strings that were given, and all of them are. -/
theorem Raw.readChoices_eq_ok {items : List Raw} {index : Nat} {list : List String} :
    readChoices index items = .ok list ↔ items = list.map .string := by
  induction items generalizing index list with
  | nil =>
    rw [readChoices, Except.ok.injEq, eq_comm, eq_comm (a := []), List.map_eq_nil_iff]
  | cons item rest ih =>
    -- Only a string is read, and then the rest is read too.
    cases item with
    | string s =>
      rw [readChoices]
      cases list with
      | nil => cases readChoices (index + 1) rest <;> simp
      | cons first others =>
        rw [List.map_cons, List.cons.injEq, ← @ih (index + 1), Raw.string.injEq]
        cases readChoices (index + 1) rest <;> simp
    | _ => cases list <;> simp [readChoices]

/-- An enumeration is an array of at least one and not too many strings. -/
theorem Raw.asChoices_eq_ok {value : Raw} {list : List String} :
    value.asChoices = .ok list ↔
      value = .array (list.map .string) ∧ list ≠ [] ∧ list.length ≤ maxChoices := by
  cases value with
  | array items =>
    rw [asChoices, Raw.array.injEq]
    -- The three checks of the reader are the three conditions.
    constructor
    · intro read
      split at read
      · cases read
      · split at read
        · cases read
        · rename_i some_item few
          obtain rfl := readChoices_eq_ok.1 read
          simpa using And.intro some_item few
    · rintro ⟨rfl, some_item, few⟩
      have none_over : ¬ maxChoices < (list.map Raw.string).length := by
        rw [List.length_map]
        omega
      rw [if_neg (by simpa using some_item), if_neg none_over]
      exact readChoices_eq_ok.2 rfl
  | _ => simp [asChoices]

/-- A pattern is what a string is compiled to. -/
theorem Raw.asPattern_eq_ok {value : Raw} {p : Pattern} :
    value.asPattern = .ok p ↔ ∃ source, value = .string source ∧ Pattern.compile source = .ok p := by
  -- Every other kind of value is refused.
  cases value with
  | string source =>
    simp only [asPattern, Raw.string.injEq, exists_eq_left']
    split <;> rename_i result <;> simp [result]
  | _ => simp [asPattern]

/-- What an attribute accepts is kept unchanged by its content. -/
theorem Attribute.toRaw_of_check {a : Attribute} {value : Raw} {content : Content}
    (checked : a.check value = .ok content) : content.toRaw = value := by
  -- Each reader only accepts values of its own kind and keeps all that they hold.
  have flag {b : Bool} (read : value.asBoolean = .ok b) : .boolean b = value := by
    cases value <;> cases read
    rfl
  have text {s : String} (read : value.asText = .ok s) : .string s = value := by
    cases value <;> cases read
    rfl
  have length {n : Int64} (read : value.asInteger = .ok n) : .integer n = value := by
    cases value <;> cases read
    rfl
  have bound {b : Bound} (read : value.asBound = .ok b) : b.toRaw = value := by
    cases value <;> cases read <;> rfl
  have choices {list : List String} (read : value.asChoices = .ok list) :
      .array (list.map .string) = value := (Raw.asChoices_eq_ok.1 read).1.symm
  have pattern {p : Pattern} (read : value.asPattern = .ok p) : .string p.source = value := by
    obtain ⟨source, rfl, compiled⟩ := Raw.asPattern_eq_ok.1 read
    obtain ⟨_, _, _, rfl⟩ := Pattern.compile_eq_ok.1 compiled
    rfl
  -- Every attribute wraps one of these readings.
  cases a <;> simp only [check, map_eq_ok, Except.ok.injEq] at checked
  all_goals first
    -- Values that are kept as they are pass no check.
    | exact checked ▸ rfl
    | obtain ⟨x, read, rfl⟩ := checked
      first
        | exact flag read
        | exact text read
        | exact length read
        | exact bound read
        | exact choices read
        | exact pattern read

namespace Slots

/-- A slot is filled exactly if it has a content. -/
theorem isFilled_eq (slots : Slots) (a : Attribute) :
    slots.isFilled a = (slots.content? a).isSome := by
  -- Each attribute has a slot of its own.
  cases a <;> simp [isFilled, content?]

/-- The decoded value of a slot stands for its content. -/
theorem raw?_eq (slots : Slots) (a : Attribute) :
    slots.raw? a = (slots.content? a).map Content.toRaw := by
  -- Each attribute has a slot of its own.
  cases a <;> simp [raw?, content?, Content.toRaw, Function.comp_def]

/-- An attribute is listed exactly if its slot is filled. -/
theorem mem_filled {slots : Slots} {a : Attribute} :
    a ∈ slots.filled ↔ slots.isFilled a = true := by
  -- All attributes are listed, so that only the slot decides.
  rw [filled, List.mem_filter]
  exact and_iff_right (by cases a <;> decide)

/-- No attribute is listed twice. -/
theorem nodup_filled (slots : Slots) : slots.filled.Nodup :=
  List.Pairwise.filter _ (by decide : Attribute.all.Nodup)

/-- The declaration of slots has one entry for each filled slot, under the canonical key. -/
theorem mem_toMapping {slots : Slots} {entry : String × Raw} :
    entry ∈ slots.toMapping.entries ↔
      ∃ a content, slots.content? a = some content ∧ entry = (a.name, content.toRaw) := by
  -- Canonical keys are distinct, so sorting drops no entry.
  have distinct : Attribute.all.Pairwise fun a b => a.name ≠ b.name := by decide
  rw [toMapping, Mapping.ofList, Entries.mem_sort]
  · simp only [List.mem_filterMap, raw?_eq, Option.map_map, Option.map_eq_some_iff]
    constructor
    · intro written
      obtain ⟨a, _, content, here, rfl⟩ := written
      exact ⟨a, content, here, rfl⟩
    · intro filled
      obtain ⟨a, content, here, rfl⟩ := filled
      exact ⟨a, by cases a <;> decide, content, here, rfl⟩
  · -- Entries of different attributes have the canonical keys of these attributes.
    refine List.pairwise_filterMap.2 (distinct.imp fun different left first right second => ?_)
    obtain ⟨_, _, rfl⟩ := Option.map_eq_some_iff.1 first
    obtain ⟨_, _, rfl⟩ := Option.map_eq_some_iff.1 second
    exact different

/-- No slot has a content to begin with. -/
@[simp] theorem content?_empty (a : Attribute) : empty.content? a = none := by
  cases a <;> rfl

/-- Slots with the same contents are the same slots. -/
theorem ext_content {left right : Slots}
    (same : ∀ a, left.content? a = right.content? a) : left = right := by
  -- Every field is the content of its own attribute behind an injective wrapping.
  have field {α : Type} {wrap : α → Content} (injective : ∀ x y, wrap x = wrap y → x = y)
      {x y : Option α} (eq : x.map wrap = y.map wrap) : x = y :=
    Option.map_injective (fun x y => injective x y) eq
  have required := field (by simp) (same .required)
  have repeated := field (by simp) (same .repeated)
  have defaultValue := field (by simp) (same .defaultValue)
  have exampleValue := field (by simp) (same .example)
  have displayName := field (by simp) (same .displayName)
  have description := field (by simp) (same .description)
  have minLength := field (by simp) (same .minLength)
  have maxLength := field (by simp) (same .maxLength)
  have choices := field (by simp) (same .choices)
  have pattern := field (by simp) (same .pattern)
  have minimum := field (by simp) (same .minimum)
  have maximum := field (by simp) (same .maximum)
  cases left
  cases right
  simp_all

/-- A slot refuses a value exactly as its attribute does. -/
theorem apply_eq_error_iff {slots : Slots} {a : Attribute} {value : Raw} {reason : ValueFault} :
    slots.apply a value = .error reason ↔ a.check value = .error reason := by
  -- A slot is written only after its check.
  cases a <;> simp [Attribute.check, apply]

/-- An accepted value becomes the content of its own slot and leaves the others alone. -/
theorem content?_apply {slots filled : Slots} {a : Attribute} {value : Raw}
    (applied : slots.apply a value = .ok filled) :
    ∃ content, a.check value = .ok content ∧
      ∀ b, filled.content? b = if b = a then some content else slots.content? b := by
  -- Each attribute writes one field, which is the content of no other attribute.
  cases a <;> simp only [apply, map_eq_ok, Except.ok.injEq] at applied
  all_goals first
    | obtain ⟨x, checked, rfl⟩ := applied
      exact ⟨_, map_eq_ok.2 ⟨x, checked, rfl⟩, fun b => by cases b <;> simp [content?]⟩
    -- Values that are kept as they are pass no check.
    | subst applied
      exact ⟨_, rfl, fun b => by cases b <;> simp [content?]⟩

end Slots

end NamedParams
