import NamedParams.Proofs.Construction.Redeclared
import NamedParams.Proofs.Construction.Shown
import NamedParams.Proofs.Json.Declarations
import NamedParams.Proofs.Values

/-! What the code of a failure says about its cause. -/

namespace NamedParams

open Log (Gate)

/-- A text that is no pattern: it is too long, or it does not compile with its anchors pinned. -/
def Pattern.Unfit (source : String) : Prop :=
  maxPatternLength < source.utf8ByteSize ∨
    ∃ cause, Regex.compile (Anchors.pin source) patternSizeLimit = .error cause

namespace Mapping

/-- A token is declared that names no type. -/
def TypeUnknown (m : Mapping) : Prop := ∃ token, m.DeclaresUnknown token

/-- Some key does not apply to the type that is declared. -/
def KeyInapplicable (m : Mapping) : Prop :=
  ∃ type, m.Declares type ∧ ∃ entry ∈ m.entries, Inapplicable type entry

/-- All keys apply to the type that is declared, and the first value that is rejected is a string
given as the pattern, which it is unfit for. -/
def PatternRejected (m : Mapping) : Prop :=
  ∃ type, m.Declares type ∧ (∀ entry ∈ m.entries, ¬ Inapplicable type entry) ∧
    ∃ source, Entries.Least m.entries Rejected ("pattern", .string source) ∧ Pattern.Unfit source

/-- A code names the fault of a mapping: each fault that has a code of its own has it alone, and any
other fault has the remaining one. -/
structure CodedAs (m : Mapping) (code : Log.Code) : Prop where
  type : code.text = "E300" ↔ m.TypeUnknown
  key : code.text = "E301" ↔ m.KeyInapplicable
  pattern : code.text = "E303" ↔ m.PatternRejected
  value : code.text = "E302" ↔ ¬ m.TypeUnknown ∧ ¬ m.KeyInapplicable ∧ ¬ m.PatternRejected

end Mapping

/-- What is known about a code is registered, and is what its severity and its action are read from. -/
def Log.Code.Registered (code : Log.Code) : Prop :=
  ∃ entry ∈ registry, entry.code = code ∧ code.severity = entry.severity ∧ code.action = entry.action

/-- A text is not compiled as a pattern exactly if it is unfit for one. -/
theorem Pattern.exists_compile_eq_error_iff {source : String} :
    (∃ fault, compile source = .error fault) ↔ Unfit source := by
  -- A source is refused for its length, or else by the engine.
  unfold compile Unfit
  split
  · rename_i long
    exact iff_of_true ⟨_, rfl⟩ (.inl long)
  · rename_i short
    simp only
    split <;> rename_i result <;> simp [result, short]

/-- A value is refused as no pattern exactly if it is a string that was given as one. -/
theorem Attribute.isPatternFault_iff {a : Attribute} {value : Raw} {reason : ValueFault}
    (refused : a.check value = .error reason) :
    reason.isPatternFault = true ↔
      a = .pattern ∧ ∃ source, value = .string source ∧ Pattern.Unfit source := by
  by_cases pattern : a = .pattern
  · -- A pattern is refused as one exactly if there is a text that was to be compiled.
    subst pattern
    rw [check, map_eq_error] at refused
    cases value with
    | string source =>
      rw [Raw.asPattern] at refused
      split at refused
      · cases refused
      · rename_i fault result
        cases refused
        have unfit := Pattern.exists_compile_eq_error_iff.1 ⟨fault, result⟩
        exact iff_of_true rfl ⟨rfl, source, rfl, unfit⟩
    | _ =>
      -- Nothing else is compiled, so it is refused for its kind.
      cases refused
      exact iff_of_false Bool.false_ne_true (by simp)
  · -- Any other attribute judges the kinds of values alone, and compiles nothing.
    refine iff_of_false ?_ fun both => pattern both.1
    rcases cases_of_refused pattern refused with ⟨e, expects, outside⟩ | ⟨_, _, fault⟩
    · rw [check_of_other_kind expects outside] at refused
      cases refused
      exact Bool.false_ne_true
    · cases fault <;> exact Bool.false_ne_true

namespace Mapping

variable {m : Mapping} {type : ParameterType}

/-- Where a type is declared, no token is unknown. -/
theorem Declares.not_typeUnknown (declares : m.Declares type) : ¬ m.TypeUnknown := by
  -- A mapping declares one type or an unknown one, never both.
  intro fault
  obtain ⟨token, unknown⟩ := fault
  exact declares.not_declaresUnknown token unknown

/-- Keys that all apply to the type that is declared have none that does not. -/
theorem Declares.not_keyInapplicable (declares : m.Declares type)
    (applicable : ∀ entry ∈ m.entries, ¬ Inapplicable type entry) : ¬ m.KeyInapplicable := by
  -- A mapping declares one type, so its keys are judged by that type only.
  intro faulty
  obtain ⟨other, again, entry, member, here⟩ := faulty
  cases declares.unique again
  exact applicable entry member here

/-- The first value that is rejected is one of a pattern exactly if it is refused as no pattern. -/
theorem Declares.patternRejected_iff {entry : String × Raw} {a : Attribute} {reason : ValueFault}
    (declares : m.Declares type) (applicable : ∀ entry ∈ m.entries, ¬ Inapplicable type entry)
    (least : Entries.Least m.entries Rejected entry) (spelled : entry.1 ∈ a.spellings)
    (refused : a.check entry.2 = .error reason) :
    m.PatternRejected ↔ reason.isPatternFault = true := by
  rw [Attribute.isPatternFault_iff refused]
  constructor
  · -- There is one least rejected entry, so it is the one that was refused.
    intro rejected
    obtain ⟨_, _, _, source, again, unfit⟩ := rejected
    obtain rfl := least.unique m.increasing again
    exact ⟨Attribute.eq_of_mem_spellings spelled (Attribute.name_mem_spellings .pattern), source,
      rfl, unfit⟩
  · intro pattern
    obtain ⟨rfl, source, value, unfit⟩ := pattern
    -- A pattern has one spelling.
    have key : entry.1 = "pattern" := List.mem_singleton.1 spelled
    have same : entry = ("pattern", .string source) := Prod.ext key value
    exact ⟨type, declares, applicable, source, same ▸ least, unfit⟩

end Mapping

/-- The code of a refusal names the fault of the mapping that is refused. -/
theorem Verdict.codedAs {s : Setting} {name : String} {m : Mapping} {refusal : Refusal}
    (verdict : Verdict s name m (.error refusal)) : m.CodedAs refusal.code := by
  cases verdict with
  | unknownType unknown =>
    show m.CodedAs .unknownType
    -- The other faults are of a mapping that declares a type.
    have type : m.TypeUnknown := ⟨_, unknown⟩
    have key : ¬ m.KeyInapplicable := fun ⟨_, declares, _⟩ => declares.not_typeUnknown type
    have pattern : ¬ m.PatternRejected := fun ⟨_, declares, _⟩ => declares.not_typeUnknown type
    exact ⟨iff_of_true rfl type, iff_of_false (by decide) key, iff_of_false (by decide) pattern,
      iff_of_false (by decide) fun others => others.1 type⟩
  | inapplicable declares least =>
    show m.CodedAs .inapplicableAttribute
    -- A type is declared, and a pattern is looked at only where all keys apply to it.
    have type := declares.not_typeUnknown
    have key : m.KeyInapplicable := ⟨_, declares, _, least.1, least.2.1⟩
    have pattern : ¬ m.PatternRejected := fun ⟨_, again, applicable, _⟩ =>
      again.not_keyInapplicable applicable key
    exact ⟨iff_of_false (by decide) type, iff_of_true rfl key, iff_of_false (by decide) pattern,
      iff_of_false (by decide) fun others => others.2.1 key⟩
  | rejected declares applicable least spelled refused =>
    have type := declares.not_typeUnknown
    have key := declares.not_keyInapplicable applicable
    have pattern := declares.patternRejected_iff applicable least spelled refused
    -- Only values are left, and the reason decides between their two codes.
    rw [Refusal.code]
    split
    · rename_i fault
      have pattern := pattern.2 fault
      exact ⟨iff_of_false (by decide) type, iff_of_false (by decide) key, iff_of_true rfl pattern,
        iff_of_false (by decide) fun others => others.2.2 pattern⟩
    · rename_i fault
      have pattern := fun rejected => fault (pattern.1 rejected)
      exact ⟨iff_of_false (by decide) type, iff_of_false (by decide) key,
        iff_of_false (by decide) pattern, iff_of_true rfl ⟨type, key, pattern⟩⟩

/-- A code that is found in the registry is registered. -/
theorem Log.Code.registered_of_isSome {code : Log.Code} (known : code.entry?.isSome = true) :
    code.Registered := by
  -- A code is found in the table by its own text.
  obtain ⟨entry, found⟩ := Option.isSome_iff_exists.1 known
  have same : entry.code = code := by simpa using List.find?_some found
  exact ⟨entry, List.mem_of_find?_eq_some found, same, by simp [severity, found],
    by simp [action, found]⟩

/-- The codes of refusals: one for a type, one for a key and two for a value. -/
def Refusal.codes : List Log.Code :=
  [.unknownType, .inapplicableAttribute, .invalidValue, .invalidPattern]

/-- A refusal has one of the codes of refusals. -/
theorem Refusal.code_mem_codes (refusal : Refusal) : refusal.code ∈ codes := by
  -- Only a value that is rejected has a code that depends on the reason.
  cases refusal with
  | invalidValue =>
    rw [code]
    split <;> simp [codes]
  | _ => simp [code, codes]

/-- No refusal has the code of a malformed declaration. -/
theorem Refusal.code_ne_malformed (refusal : Refusal) : refusal.code.text ≠ "E310" := by
  -- The codes of refusals are few, so each is compared.
  have differ : ∀ code ∈ codes, code.text ≠ "E310" := by decide
  exact differ refusal.code refusal.code_mem_codes

/-- The code of every failure is registered. -/
theorem Failure.registered_code (failure : Failure) : failure.code.Registered := by
  -- A malformed declaration has one code, and the codes of refusals are few.
  apply Log.Code.registered_of_isSome
  cases failure with
  | malformed => rfl
  | refused refusal =>
    have known : ∀ code ∈ Refusal.codes, code.entry?.isSome = true := by decide
    exact known refusal.code refusal.code_mem_codes

/-- The code of a failure tells its cause: a value that is no declaration, or else the fault of the
first mapping that is refused. It is always registered. -/
theorem code_of_constructJson (s : Setting) (gate : Gate) (name : String) {json : Json}
    {failure : Failure} (failed : (s.constructJson gate name json).value = .error failure) :
    (failure.code.text = "E310" ↔ ¬ json.Declares) ∧
      (json.Declares → ∃ declaration before mapping after refusal,
        Declaration.ofJson json = .ok declaration ∧
        declaration.mappings = before ++ mapping :: after ∧
        (∀ other ∈ before, ∃ p, (s.construct gate name (.single other)).value = .ok p) ∧
        (s.construct gate name (.single mapping)).value = .error refusal ∧
        .refused refusal = failure ∧ mapping.CodedAs failure.code) ∧
      failure.code.Registered := by
  -- A value declares a parameter exactly if a declaration is read from it.
  rw [← Declaration.exists_ofJson_eq_ok_iff, ← and_assoc]
  refine ⟨?_, failure.registered_code⟩
  rcases Setting.constructJson_eq_error_iff.1 failed with
    ⟨fault, read, rfl⟩ | ⟨declaration, read, refusal, refused, rfl⟩
  · have undeclared : ¬ ∃ declaration, Declaration.ofJson json = .ok declaration := by simp [read]
    exact ⟨iff_of_true rfl undeclared, fun declares => absurd declares undeclared⟩
  · -- The refusal is that of the first mapping that is refused, whose verdict gives the code.
    obtain ⟨before, mapping, after, split, built, own⟩ := Setting.exists_first_refused refused
    have verdict := Setting.construct_single_iff_verdict.1 own
    exact ⟨iff_of_false refusal.code_ne_malformed (not_not_intro ⟨declaration, read⟩), fun _ =>
      ⟨declaration, before, mapping, after, refusal, read, split, built, own, rfl, verdict.codedAs⟩⟩

/-- Behind an empty alternative, of a pattern that does not compile and a flag that is no boolean the
pattern has the lesser key. -/
theorem code_of_unclosed_group :
    let s : Setting :=
      ⟨.query, { logAttributes := false, logSuccess := false, includeValues := false }⟩
    let json : Json := .array [.object [],
      .object [("pattern", .string "("), ("required", .string "yes")]]
    let failure : Failure := .refused (.invalidValue "p" .pattern "<redacted>"
      (.badPattern (.rejected .groupUnclosed)))
    (s.constructJson none "p" json).value = .error failure ∧ json.Declares ∧
      ∃ declaration before mapping after, Declaration.ofJson json = .ok declaration ∧
        declaration.mappings = before ++ mapping :: after ∧ mapping.PatternRejected := by
  intro s json failure
  have failed : (s.constructJson none "p" json).value = .error failure := by cbv
  obtain ⟨malformed, classified, _⟩ := code_of_constructJson s none "p" failed
  -- The code is another one, so the value declares a parameter, and the fault is read off the code.
  have declares : json.Declares := Classical.not_not.1 fun undeclared =>
    absurd (malformed.2 undeclared) (by decide)
  obtain ⟨declaration, before, mapping, after, _, read, split, _, _, _, coded⟩ :=
    classified declares
  exact ⟨failed, declares, declaration, before, mapping, after, read, split, coded.pattern.1 rfl⟩

end NamedParams
