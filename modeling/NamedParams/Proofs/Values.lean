import NamedParams.Proofs.Slots

/-! Which values an attribute refuses: for all but patterns, kinds alone decide. -/

namespace NamedParams

/-- The kinds of values that meet an expectation. -/
def Expectation.kinds : Expectation → List Kind
  | .boolean => [.boolean]
  | .integer => [.integer]
  | .number => [.integer, .float]
  | .string => [.string]
  | .array => [.array]

/-- What an attribute expects of the kind of its values, if it expects anything. -/
def Attribute.expectation? : Attribute → Option Expectation
  | .required | .repeated => some .boolean
  | .defaultValue | .example => none
  | .displayName | .description | .pattern => some .string
  | .minLength | .maxLength => some .integer
  | .choices => some .array
  | .minimum | .maximum => some .number

/-- The kinds of the members of an array; no other value has members. -/
def Raw.memberKinds : Raw → List Kind
  | .array items => items.map kind
  | _ => []

/-- Why members of some kinds are no enumeration: their number is judged first, and then the first
of them that is no string. -/
inductive MembersFault (kinds : List Kind) : ValueFault → Prop where
  | none (empty : kinds = []) : MembersFault kinds .noChoices
  | tooMany (excess : maxChoices < kinds.length) : MembersFault kinds (.tooManyChoices kinds.length)
  | notString {before after : List Kind} {found : Kind} (few : kinds.length ≤ maxChoices)
    (split : kinds = before ++ found :: after) (strings : ∀ kind ∈ before, kind = .string)
    (other : found ≠ .string) : MembersFault kinds (.choiceNotString before.length found)

namespace Raw

/-- Reading stops at the first member that is no string, and tells where it stands. -/
theorem readChoices_eq_error {items : List Raw} {index : Nat} {reason : ValueFault} :
    readChoices index items = .error reason ↔ ∃ before found after,
      items.map kind = before ++ found :: after ∧ (∀ kind ∈ before, kind = .string) ∧
        found ≠ .string ∧ reason = .choiceNotString (index + before.length) found := by
  -- Induct over the members: a string is passed over, and any other member is reported.
  induction items generalizing index with
  | nil => simp [readChoices]
  | cons item rest ih =>
    by_cases string : item.kind = .string
    · obtain ⟨s, rfl⟩ : ∃ s, item = .string s := by
        cases item <;> simp [kind] at string
        exact ⟨_, rfl⟩
      have passed : readChoices index (.string s :: rest) = .error reason ↔
          readChoices (index + 1) rest = .error reason := by
        rw [readChoices]
        cases readChoices (index + 1) rest <;> simp
      rw [passed, ih]
      -- The strings in front grow by the one that is passed over, and so does the index.
      constructor
      · rintro ⟨before, found, after, split, strings, other, rfl⟩
        refine ⟨.string :: before, found, after, by rw [List.map_cons, split]; rfl,
          List.forall_mem_cons.2 ⟨rfl, strings⟩, other, ?_⟩
        rw [List.length_cons]
        congr 1
        omega
      · rintro ⟨before, found, after, split, strings, other, rfl⟩
        cases before with
        | nil => exact absurd (List.cons.inj split).1.symm other
        | cons first front =>
          refine ⟨front, found, after, (List.cons.inj split).2,
            (List.forall_mem_cons.1 strings).2, other, ?_⟩
          rw [List.length_cons]
          congr 1
          omega
    · have stopped : readChoices index (item :: rest) = .error (.choiceNotString index item.kind) := by
        cases item <;> first | rfl | exact absurd rfl string
      rw [stopped, Except.error.injEq]
      constructor
      · rintro rfl
        exact ⟨[], item.kind, rest.map kind, rfl, List.forall_mem_nil _, string, rfl⟩
      · rintro ⟨before, found, after, split, strings, other, rfl⟩
        cases before with
        | nil => rw [(List.cons.inj split).1]; rfl
        | cons first front =>
          -- The first member would have to be a string.
          exact absurd ((List.cons.inj split).1.trans (strings first List.mem_cons_self)) string

/-- What is no enumeration is refused for its kind or for the kinds of its members. -/
theorem asChoices_eq_error {value : Raw} {reason : ValueFault} :
    value.asChoices = .error reason ↔
      (value.kind ≠ .array ∧ reason = .wrongKind .array value.kind) ∨
        (value.kind = .array ∧ MembersFault value.memberKinds reason) := by
  -- Only an array gets as far as its members.
  cases value with
  | array items =>
    have length : (items.map kind).length = items.length := List.length_map ..
    rw [asChoices, memberKinds]
    constructor
    · -- The checks are made in this order, and the first that fails gives the reason.
      intro refused
      refine .inr ⟨rfl, ?_⟩
      split at refused
      · rename_i empty
        cases refused
        exact .none (by simpa using empty)
      · split at refused
        · rename_i excess
          cases refused
          rw [← length] at excess ⊢
          exact .tooMany excess
        · rename_i few
          obtain ⟨before, found, after, split, strings, other, rfl⟩ :=
            readChoices_eq_error.1 refused
          rw [Nat.zero_add]
          exact .notString (by omega) split strings other
    · rintro (⟨other, _⟩ | ⟨_, fault⟩)
      · exact absurd rfl other
      · cases fault with
        | none empty => rw [List.map_eq_nil_iff.1 empty]; rfl
        | tooMany excess =>
          have some_item : ¬ items.isEmpty = true := by
            rw [List.isEmpty_iff_length_eq_zero]
            omega
          rw [if_neg some_item, if_pos (by omega), length]
        | @notString before after found few split strings other =>
          have some_item : ¬ items.isEmpty = true := by
            rw [List.isEmpty_iff]
            rintro rfl
            simp at split
          rw [if_neg some_item, if_neg (by omega)]
          exact readChoices_eq_error.2
            ⟨before, found, after, split, strings, other, by rw [Nat.zero_add]⟩
  | _ => simp [asChoices, kind, eq_comm]

end Raw

namespace Attribute

/-- A value of a kind that is not expected is refused for its kind. -/
theorem check_of_other_kind {a : Attribute} {value : Raw} {e : Expectation}
    (expects : a.expectation? = some e) (other : value.kind ∉ e.kinds) :
    a.check value = .error (.wrongKind e value.kind) := by
  -- Each attribute reads values of the kinds that it expects, and refuses every other.
  cases a <;> cases expects <;> cases value <;> first
    | rfl
    | simp [Raw.kind, Expectation.kinds] at other

/-- Where no more is asked for than a kind, every value of an expected kind is accepted. -/
theorem check_of_expected_kind {a : Attribute} {value : Raw}
    (expected : ∀ e, a.expectation? = some e → value.kind ∈ e.kinds) (plain : a ≠ .choices)
    (noPattern : a ≠ .pattern) : ∃ content, a.check value = .ok content := by
  -- Behind the kind, only choices and patterns look further into the value.
  cases a <;> first
    | exact absurd rfl plain
    | exact absurd rfl noPattern
    | exact ⟨_, rfl⟩
    | have kind := expected _ rfl
      cases value <;> first
        | exact ⟨_, rfl⟩
        | simp [Raw.kind, Expectation.kinds] at kind

/-- What is not compiled as a pattern is refused for its kind, or as choices for its members. -/
theorem cases_of_refused {a : Attribute} {value : Raw} {reason : ValueFault}
    (noPattern : a ≠ .pattern) (refused : a.check value = .error reason) :
    (∃ e, a.expectation? = some e ∧ value.kind ∉ e.kinds) ∨
      a = .choices ∧ value.kind = .array ∧ MembersFault value.memberKinds reason := by
  -- Choices look at their members too, and so they stand apart.
  by_cases choices : a = .choices
  · subst choices
    rw [check, map_eq_error, Raw.asChoices_eq_error] at refused
    rcases refused with ⟨other, _⟩ | faulty
    · exact .inl ⟨.array, rfl, by simpa [Expectation.kinds] using other⟩
    · exact .inr ⟨rfl, faulty⟩
  · -- An attribute that asks for a kind alone accepts every value of that kind.
    by_contra expected
    obtain ⟨content, accepted⟩ := check_of_expected_kind
      (fun e expects => by_contra fun outside => expected (.inl ⟨e, expects, outside⟩)) choices
      noPattern
    cases accepted.symm.trans refused

/-- Kinds alone decide for what reason a value is refused that is not compiled as a pattern. -/
theorem check_eq_error_of_kind {a : Attribute} {value other : Raw} {reason : ValueFault}
    (noPattern : a ≠ .pattern) (kind : a.expectation? ≠ none → value.kind = other.kind)
    (members : a = .choices → value.memberKinds = other.memberKinds)
    (refused : a.check value = .error reason) : a.check other = .error reason := by
  -- What refuses a value can be read off its kind, or off the kinds of its members.
  rcases cases_of_refused noPattern refused with ⟨e, expects, outside⟩ | ⟨rfl, array, fault⟩
  · have kinds := kind (by simp [expects])
    rw [check_of_other_kind expects outside] at refused
    rw [check_of_other_kind expects (kinds ▸ outside), ← kinds, refused]
  · -- For choices, the kinds of the members decide too.
    have kinds := kind (by decide)
    rw [check, map_eq_error, Raw.asChoices_eq_error, ← kinds, ← members rfl]
    exact .inr ⟨array, fault⟩

end Attribute

end NamedParams
