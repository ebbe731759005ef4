import NamedParams.Proofs.Construction.Alternatives
import NamedParams.Proofs.Json.Representable

/-! What a refusal shows of the declared value that it is about. -/

namespace NamedParams

open Log (Gate)

/-- What preferences permit an error to show of a value with some text: nothing of it, or else all of
it if it is short, or else its first characters with dots behind them. -/
inductive Preferences.Permits (p : Preferences) (text : String) : String → Prop where
  | redacted (keeps : p.includeValues = false) : Permits p text "<redacted>"
  | whole (shows : p.includeValues = true) (short : text.length ≤ 120) : Permits p text text
  | start {front rest : List Char} (shows : p.includeValues = true)
    (split : text.toList = front ++ rest) (length : front.length = 120) (more : rest ≠ []) :
    Permits p text (String.ofList front ++ "...")

/-- A text is shortened to its first characters exactly if it has more than these. -/
theorem shorten_eq_iff {text shown : String} {limit : Nat} :
    shorten text limit = shown ↔ text.length ≤ limit ∧ shown = text ∨
      ∃ front rest, text.toList = front ++ rest ∧ front.length = limit ∧ rest ≠ [] ∧
        shown = String.ofList front ++ "..." := by
  -- A text is cut exactly if it is longer than the limit, and then at the limit.
  have count : text.toList.length = text.length := String.length_toList
  rw [shorten]
  split
  · rename_i long
    constructor
    · rintro rfl
      refine .inr ⟨text.toList.take limit, text.toList.drop limit, by simp, ?_, ?_, rfl⟩
      · rw [List.length_take]
        omega
      · rw [Ne, List.drop_eq_nil_iff]
        omega
    · rintro (⟨short, _⟩ | ⟨front, rest, split, length, _, rfl⟩)
      · omega
      · rw [split, ← length, List.take_left']
        rfl
  · rename_i short
    constructor
    · rintro rfl
      exact .inl ⟨by omega, rfl⟩
    · rintro (⟨_, rfl⟩ | ⟨front, rest, split, length, more, _⟩)
      · rfl
      · -- The characters behind the first ones would make the text longer.
        have some_more := List.length_pos_of_ne_nil more
        rw [split, List.length_append] at count
        omega

namespace Preferences

variable {p : Preferences} {text shown : String}

/-- What is permitted is what a rejected value is shown as. -/
theorem permits_iff :
    p.Permits text shown ↔
      (if p.includeValues then shorten text maxShownValue else "<redacted>") = shown := by
  -- The three ways of showing a text are the cases of the two conditions.
  constructor
  · intro permitted
    rcases permitted with keeps | ⟨shows, short⟩ | ⟨shows, split, length, more⟩
    · rw [keeps]
      rfl
    · rw [if_pos shows]
      exact shorten_eq_iff.2 (.inl ⟨short, rfl⟩)
    · rw [if_pos shows]
      exact shorten_eq_iff.2 (.inr ⟨_, _, split, length, more, rfl⟩)
  · split
    · rename_i shows
      intro shortened
      rcases shorten_eq_iff.1 shortened with
        ⟨short, rfl⟩ | ⟨front, rest, split, length, more, rfl⟩
      · exact .whole shows short
      · exact .start shows split length more
    · rename_i keeps
      rintro rfl
      exact .redacted (by simpa using keeps)

/-- A text as it stands is permitted if it is short, and else only if it is its own shortened form
or reads as if it were kept back. -/
theorem permits_self_iff :
    p.Permits text text ↔
      p.includeValues = true ∧ (text.length ≤ 120 ∨
        ∃ front : List Char, front.length = 120 ∧ text = String.ofList front ++ "...") ∨
      p.includeValues = false ∧ text = "<redacted>" := by
  -- A text that is cut could only be shown in full if it ends like a cut one.
  rw [permits_iff]
  cases p.includeValues with
  | false => simp [eq_comm]
  | true =>
    rw [if_pos rfl, shorten_eq_iff]
    simp only [and_true, true_and, Bool.true_eq_false, false_and, or_false]
    apply or_congr_right
    constructor
    · intro shortened
      obtain ⟨front, _, _, length, _, same⟩ := shortened
      exact ⟨front, length, same⟩
    · -- A text with three dots behind its first characters is its own shortened form.
      intro dotted
      obtain ⟨front, length, same⟩ := dotted
      exact ⟨front, ['.', '.', '.'], by simp [same], length, by simp, same⟩

end Preferences

/-- What a refusal of a mapping shows: of the least rejected value what the preferences permit, and
of a type that names none a text in some relation to the declared one. -/
inductive Setting.Shows (s : Setting) (ofType : String → String → Prop) (name : String)
    (mapping : Mapping) : Refusal → Prop where
  | type {token : Raw} {shown : String} (unknown : mapping.DeclaresUnknown token)
    (related : ofType token.tokenText shown) : Shows s ofType name mapping (.unknownType name shown)
  | key {key : String} {type : ParameterType} :
    Shows s ofType name mapping (.inapplicable name key type)
  | value {entry : String × Raw} {a : Attribute} {shown : String} {reason : ValueFault}
    (least : Entries.Least mapping.entries Rejected entry) (spelled : entry.1 ∈ a.spellings)
    (refused : a.check entry.2 = .error reason)
    (permitted : s.preferences.Permits entry.2.text shown) :
    Shows s ofType name mapping (.invalidValue name a shown reason)

namespace Setting

variable {s : Setting} {gate : Gate} {name : String} {mapping : Mapping} {refusal : Refusal}

/-- A mapping is refused with a permitted text of a value or the full text of a type. -/
theorem shows_of_verdict (verdict : Verdict s name mapping (.error refusal)) :
    s.Shows Eq name mapping refusal := by
  -- A type is shown as it is, a key shows no value, and a rejected value is shortened.
  cases verdict with
  | unknownType unknown => exact .type unknown rfl
  | inapplicable => exact .key
  | rejected _ _ least spelled refused =>
    exact .value least spelled refused (Preferences.permits_iff.2 rfl)

/-- What a refusal shows is permitted exactly if the full text of the type is, where it shows one. -/
theorem shows_permits_iff (shows : s.Shows Eq name mapping refusal) :
    s.Shows s.preferences.Permits name mapping refusal ↔
      ∀ text, refusal = .unknownType name text → s.preferences.Permits text text := by
  constructor
  · intro permitted text same
    subst same
    cases permitted with
    | @type token _ unknown permits =>
      cases shows with
      | @type declared _ here full =>
        -- One type is declared, and it is the one that is shown.
        obtain rfl : declared = token := Option.some.inj (here.1.symm.trans unknown.1)
        rwa [full] at permits
  · -- The other parts are shown by the preferences already.
    intro full
    cases shows with
    | @type token _ unknown same =>
      subst same
      exact .type unknown (full _ rfl)
    | key => exact .key
    | value least spelled refused permitted => exact .value least spelled refused permitted

/-- A declaration is refused for the first of its mappings that is refused. -/
theorem exists_first_refused {declaration : Declaration}
    (refused : (s.construct gate name declaration).value = .error refusal) :
    ∃ before mapping after, declaration.mappings = before ++ mapping :: after ∧
      (∀ other ∈ before, ∃ p, (s.construct gate name (.single other)).value = .ok p) ∧
      (s.construct gate name (.single mapping)).value = .error refusal := by
  -- A single mapping is the first one and the only one.
  cases declaration with
  | single mapping => exact ⟨[], mapping, [], rfl, by simp, refused⟩
  | alternatives mappings => exact construct_alternatives_eq_error_iff.1 refused

end Setting

/-- A refusal shows of the value at fault what the preferences permit, and the type at fault in full;
so what it shows is permitted unless it is a type that is too long or would be kept back. -/
theorem shows_of_construct (s : Setting) (gate : Gate) (name : String) {declaration : Declaration}
    {refusal : Refusal} (refused : (s.construct gate name declaration).value = .error refusal) :
    ∃ before mapping after, declaration.mappings = before ++ mapping :: after ∧
      (∀ other ∈ before, ∃ p, (s.construct gate name (.single other)).value = .ok p) ∧
      s.Shows Eq name mapping refusal ∧
      (s.Shows s.preferences.Permits name mapping refusal ↔
        ∀ text, refusal = .unknownType name text →
          s.preferences.includeValues = true ∧ (text.length ≤ 120 ∨
            ∃ front : List Char, front.length = 120 ∧ text = String.ofList front ++ "...") ∨
          s.preferences.includeValues = false ∧ text = "<redacted>") := by
  -- What a declaration is refused for is what its first refused mapping is refused for alone.
  obtain ⟨before, mapping, after, split, built, own⟩ := Setting.exists_first_refused refused
  have verdict : Verdict s name mapping (.error refusal) :=
    Setting.constructTyped_eq_error_iff.1 (Setting.construct_single_eq_error_iff.1 own)
  have shows := Setting.shows_of_verdict verdict
  refine ⟨before, mapping, after, split, built, shows, ?_⟩
  -- The type is the only part that is not shown by the preferences.
  rw [Setting.shows_permits_iff shows]
  exact forall_congr' fun text => imp_congr_right fun _ => Preferences.permits_self_iff

/-- A long text with letters of several bytes is refused in an array behind an empty alternative, and
shown as permitted. -/
theorem shows_of_long_text :
    let s : Setting :=
      ⟨.base, { logAttributes := false, logSuccess := true, includeValues := true }⟩
    let value : Raw := .array [.string (String.ofList (List.replicate 121 'é'))]
    let mapping : Mapping := ⟨[("description", value)], List.pairwise_singleton _ _⟩
    let refusal : Refusal :=
      .invalidValue "p" .description (s.showValue value) (.wrongKind .string .array)
    (s.construct none "p" (.alternatives [.empty, mapping])).value = .error refusal ∧
      ∃ before shown after, [Mapping.empty, mapping] = before ++ shown :: after ∧
        (∀ other ∈ before, ∃ p, (s.construct none "p" (.single other)).value = .ok p) ∧
        s.Shows s.preferences.Permits "p" shown refusal := by
  intro s value mapping refusal
  have refused : (s.construct none "p" (.alternatives [.empty, mapping])).value = .error refusal :=
    rfl
  obtain ⟨before, shown, after, split, built, _, permitted⟩ :=
    shows_of_construct s none "p" refused
  -- No type is shown.
  exact ⟨refused, before, shown, after, split, built, permitted.2 nofun⟩

/-- A declared type is shown where values are kept back, so not all that is shown is permitted. -/
theorem not_shows_permitted :
    ¬ ∀ (s : Setting) (name : String) (declaration : Declaration) (refusal : Refusal),
      (s.construct none name declaration).value = .error refusal →
      ∃ mapping ∈ declaration.mappings, s.Shows s.preferences.Permits name mapping refusal := by
  -- A short secret in place of a type is shown although values are kept back.
  intro permits
  obtain ⟨mapping, _, shows⟩ := permits
    ⟨.base, { logAttributes := false, logSuccess := true, includeValues := false }⟩ "p"
    (.single ⟨[("type", .string "secret")], List.pairwise_singleton _ _⟩)
    (.unknownType "p" "secret") rfl
  cases shows with
  | type _ permitted =>
    have kept : "<redacted>" = "secret" := Preferences.permits_iff.1 permitted
    exact absurd kept (by decide)

end NamedParams
