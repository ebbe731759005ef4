import NamedParams.Proofs.Construction.Alternatives

/-! Preferences and the location label what a declaration leads to and decide nothing about it. -/

namespace NamedParams

open Log (Gate)

/-- A parameter of one type with another label of its location. -/
def TypedParameter.relocated (p : TypedParameter) (location : Location) : TypedParameter :=
  { p with location }

/-- A parameter with another label of its location, which all its alternatives bear too. -/
def Parameter.relocated (p : Parameter) (location : Location) : Parameter :=
  match p with
  | .single p => .single (p.relocated location)
  | .multiple name _ alternatives =>
    .multiple name location (alternatives.map (·.relocated location))

/-- A refusal as it is shown under preferences, which may keep back the text of a rejected value. -/
def Refusal.shownUnder (refusal : Refusal) (preferences : Preferences) : Refusal :=
  match refusal with
  | .invalidValue parameter a value reason =>
    .invalidValue parameter a (if preferences.includeValues then value else "<redacted>") reason
  | other => other

namespace Setting

/-- A setting that shows rejected values, for a location that is not known yet. -/
def plain : Setting :=
  ⟨.base, { logAttributes := false, logSuccess := false, includeValues := true }⟩

/-- A result with the labels of a setting. -/
def present (s : Setting) : Except Refusal Parameter → Except Refusal Parameter
  | .ok p => .ok (p.relocated s.location)
  | .error refusal => .error (refusal.shownUnder s.preferences)

end Setting

/-- Whatever the setting, the verdict is the plain one under the labels of the setting. -/
theorem Verdict.present {name : String} {mapping : Mapping} {result : Except Refusal Parameter}
    (verdict : Verdict .plain name mapping result) (s : Setting) :
    Verdict s name mapping (s.present result) := by
  -- No gate looks at the setting; only a rejected value is shown under its preferences.
  cases verdict with
  | unknownType unknown => exact .unknownType unknown
  | inapplicable declares least => exact .inapplicable declares least
  | rejected declares applicable least spelled refused =>
    exact .rejected declares applicable least spelled refused
  | built declares applicable accepted hold => exact .built declares applicable accepted hold

namespace Setting

variable (s : Setting) (gate : Gate) (name : String)

/-- A mapping leads to its plain result under the labels of the setting. -/
theorem construct_single_eq_present (mapping : Mapping) :
    (s.construct gate name (.single mapping)).value =
      s.present (plain.construct none name (.single mapping)).value := by
  -- What is decided in the plain setting is decided in any, up to what is shown.
  rw [value_construct_single, value_construct_single]
  have verdict : Verdict plain name mapping
      ((plain.constructTyped none name mapping).value.map .single) :=
    (constructTyped_eq_iff_verdict none).1 rfl
  exact constructTyped_of_verdict (verdict.present s)

/-- A declaration leads to its plain result under the labels of the setting. -/
theorem construct_eq_present (declaration : Declaration) :
    (s.construct gate name declaration).value =
      s.present (plain.construct none name declaration).value := by
  cases declaration with
  | single mapping => exact s.construct_single_eq_present gate name mapping
  | alternatives mappings =>
    -- Each alternative leads to its own plain result, so the same one is refused first.
    cases result : (plain.construct none name (.alternatives mappings)).value with
    | error refusal =>
      obtain ⟨before, mapping, after, rfl, built, refused⟩ :=
        construct_alternatives_eq_error_iff.1 result
      refine construct_alternatives_eq_error_iff.2 ⟨before, mapping, after, rfl, ?_, ?_⟩
      · intro other member
        obtain ⟨p, own⟩ := built other member
        exact ⟨p.relocated s.location, by rw [construct_single_eq_present, own, present]⟩
      · rw [construct_single_eq_present, refused, present]
    | ok p =>
      obtain ⟨children, built, rfl⟩ := construct_alternatives_eq_ok_iff.1 result
      refine construct_alternatives_eq_ok_iff.2
        ⟨children.map (·.relocated s.location), List.forall₂_map_right_iff.2 ?_, rfl⟩
      refine built.imp fun mapping child own => ?_
      rw [construct_single_eq_present, own, present, Parameter.relocated]

end Setting

/-- Two settings lead to parameters that differ in the labels of their locations alone, or to
refusals that differ in the text of a rejected value alone, which each setting shows or keeps
back. -/
theorem construct_settings (s t : Setting) (gate gate' : Gate) (name : String)
    (declaration : Declaration) :
    let first := (s.construct gate name declaration).value
    let second := (t.construct gate' name declaration).value
    (∃ p : Parameter,
        first = .ok (p.relocated s.location) ∧ second = .ok (p.relocated t.location)) ∨
      ∃ refusal : Refusal, first = .error (refusal.shownUnder s.preferences) ∧
        second = .error (refusal.shownUnder t.preferences) := by
  intro first second
  have one := s.construct_eq_present gate name declaration
  have other := t.construct_eq_present gate' name declaration
  -- Both are labelled forms of one plain result.
  cases result : (Setting.plain.construct none name declaration).value with
  | ok p =>
    rw [result] at one other
    exact .inl ⟨p, one, other⟩
  | error refusal =>
    rw [result] at one other
    exact .inr ⟨refusal, one, other⟩

end NamedParams
