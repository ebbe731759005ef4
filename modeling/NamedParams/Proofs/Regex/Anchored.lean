import NamedParams.Proofs.Regex.Following

/-! Where an anchor can stand outside of classes, a backslash can stand too. -/

namespace NamedParams.Regex

open Anchors.Scan (resting)
open Unicode (isForeign)

/-- An anchor of lines, or the backslash that pinned anchors start with. -/
def StartsAnchor (c : Char) : Prop := c = '^' ∨ c = '$' ∨ c = '\\'

/-- A backslash may start a pinned anchor. -/
theorem StartsAnchor.backslash : StartsAnchor '\\' := .inr (.inr rfl)

/-- Anchors and backslashes are foreign in names of properties. -/
theorem StartsAnchor.foreign {c : Char} (starts : StartsAnchor c) : isForeign c = true := by
  -- Each of the three characters is listed among the foreign ones.
  rcases starts with rfl | rfl | rfl <;> decide

/-- Anchors and backslashes belong to no name of a group. -/
theorem StartsAnchor.not_isNameChar {c : Char} (starts : StartsAnchor c) (first : Bool) :
    State.isNameChar first c = false := by
  -- None of the three is a letter, a digit or one of the signs in names.
  rcases starts with rfl | rfl | rfl <;> cases first <;> decide

namespace State

variable {s : State} {c : Char}

/-- The depth of the scan counts the open classes, and perhaps one that is about to be opened. -/
theorem length_classes_le_depth (s : State) : s.classes.length ≤ s.scan.depth := by
  -- Only a bracket that may open a further class makes the scan deeper.
  unfold State.scan
  grind [resting]

/-- Where the scan is outside of classes, no class is open. -/
theorem classes_of_scan (scan : s.scan = resting 0) : s.classes = [] := by
  -- The scan is at least as deep as classes are open.
  have none := s.length_classes_le_depth
  rw [scan] at none
  exact List.length_eq_zero_iff.1 (Nat.le_zero.1 none)

/-- Behind a backslash, a character is the second one of an escape. -/
theorem Dense.step_escape (dense : s.Dense) (ahead : s.ahead = none) {place : Place}
    (mode : s.mode = .escape place) (c : Char) :
    s.step c = State.takeEscape { s with actions := [] } place c := by
  -- No blank is skipped while blanks count, so the character is taken as it is.
  rw [dense.step_take ahead]
  simp only [State.take, mode]

/-- Characters that are refused are not taken. -/
theorem fails_of_foreign {result : Except Fault State} (starts : StartsAnchor c)
    (plain : ∀ s', result = .ok s' → isForeign c = false) : ∃ fault, result = .error fault := by
  -- The result is a failure, as a success would tell that the character is plain.
  cases result with
  | error fault => exact ⟨fault, rfl⟩
  | ok s' => simp [starts.foreign] at plain

/-- Flags contain no anchors. -/
theorem takeFlag_anchor (scan : FlagScan) (starts : StartsAnchor c) :
    s.takeFlag scan c = .error .flagUnrecognized := by
  -- None of the three characters ends the flags, and none is a letter of one.
  rcases starts with rfl | rfl | rfl <;> rfl

/-- Names of groups contain no anchors. -/
theorem takeGroupName_anchor (reversed : List Char) (starts : StartsAnchor c) :
    s.takeGroupName reversed c = .error .groupNameInvalid := by
  -- A name ends at an angle bracket only.
  have other : c ≠ '>' := by rcases starts with rfl | rfl | rfl <;> decide
  simp [takeGroupName, other, starts.not_isNameChar]

/-- Anchors and backslashes are taken among items. -/
def TakesAnchors (take : Char → Except Fault State) : Prop :=
  ∃ base : State, base.ahead = none ∧ base.Dense ∧ ∀ c, StartsAnchor c → take c = base.takeItem c

/-- Anchors and backslashes are refused. -/
def RefusesAnchors (take : Char → Except Fault State) : Prop :=
  ∀ c, StartsAnchor c → ∃ fault, take c = .error fault

/-- Outside of classes, escapes and names of properties, anchors and backslashes are all taken among
items, or all refused. -/
theorem Within.take_anchors {w : Watch} (within : s.Within w 0 False)
    (inClass : s.mode.inClass = false) (unnamed : s.mode.namesProperty = false)
    (unescaped : ∀ place, s.mode ≠ .escape place) :
    TakesAnchors s.take ∨ RefusesAnchors s.take := by
  -- In each mode all three characters take the same arm.
  cases mode : s.mode with
  | items => exact .inl ⟨s, within.ahead, within.dense, fun c _ => by simp [State.take, mode]⟩
  | counted =>
    refine .inl ⟨{ s with mode := .items }, within.ahead, within.dense, fun c starts => ?_⟩
    have other : c ≠ '?' := by rcases starts with rfl | rfl | rfl <;> decide
    simp [State.take, mode, other]
  | countLeast scan =>
    -- Counts are made of digits, blanks, a comma and a brace.
    refine .inr fun c starts => fails_of_foreign starts fun s' taken => ?_
    simp only [State.take, mode] at taken
    exact (within.takeCountLeast taken).2
  | countComma least =>
    refine .inr fun c starts => fails_of_foreign starts fun s' taken => ?_
    simp only [State.take, mode] at taken
    exact (within.takeCountComma taken).2
  | countMost least scan =>
    refine .inr fun c starts => fails_of_foreign starts fun s' taken => ?_
    simp only [State.take, mode] at taken
    exact (within.takeCountMost taken).2
  | groupOpen =>
    -- The anchor is the first item in the group.
    have opened : (s.openGroup true .none).Ready w 0 := within.openGroup id true List.not_mem_nil
    refine .inl ⟨_, opened.within.ahead, opened.within.dense, fun c starts => ?_⟩
    have other : c ≠ '?' := by rcases starts with rfl | rfl | rfl <;> decide
    simp [State.take, mode, other]
  | groupQuestion =>
    -- Behind a question mark, whatever starts nothing else is taken for a flag.
    refine .inr fun c starts => ⟨.flagUnrecognized, ?_⟩
    simp only [State.take, mode]
    have same : s.takeGroupQuestion c = s.takeFlag ⟨.none, false, false⟩ c := by
      rcases starts with rfl | rfl | rfl <;> rfl
    rw [same, takeFlag_anchor _ starts]
  | groupAngle =>
    refine .inr fun c starts => ⟨.groupNameInvalid, ?_⟩
    have other : c ≠ '=' ∧ c ≠ '!' := by rcases starts with rfl | rfl | rfl <;> decide
    simp [State.take, mode, takeGroupAngle, other, takeGroupName_anchor [] starts]
  | groupLetter =>
    refine .inr fun c starts => ⟨.flagUnrecognized, ?_⟩
    have other : c ≠ '<' := by rcases starts with rfl | rfl | rfl <;> decide
    simp [State.take, mode, other]
  | groupName reversed =>
    refine .inr fun c starts => ⟨.groupNameInvalid, ?_⟩
    simp [State.take, mode, takeGroupName_anchor reversed starts]
  | flags scan =>
    refine .inr fun c starts => ⟨.flagUnrecognized, ?_⟩
    simp [State.take, mode, takeFlag_anchor scan starts]
  | hexOpen place digits =>
    -- The code of a character is made of digits and braces.
    refine .inr fun c starts => fails_of_foreign starts fun s' taken => ?_
    simp only [State.take, mode] at taken
    rw [mode] at inClass
    exact ((within.imp False.elim).takeHexOpen inClass taken).2
  | hexDigits place byteForm missing value =>
    refine .inr fun c starts => fails_of_foreign starts fun s' taken => ?_
    simp only [State.take, mode] at taken
    rw [mode] at inClass
    exact ((within.imp False.elim).takeHexDigit inClass taken).2
  | hexBrace place value =>
    refine .inr fun c starts => fails_of_foreign starts fun s' taken => ?_
    simp only [State.take, mode] at taken
    rw [mode] at inClass
    exact ((within.imp False.elim).takeHexBrace inClass taken).2
  | wordBrace place =>
    -- The name of a word boundary is made of letters and hyphens.
    refine .inr fun c starts => fails_of_foreign starts fun s' taken => ?_
    simp only [State.take, mode] at taken
    rw [mode] at inClass
    exact ((within.imp False.elim).takeWordBrace inClass taken).2
  | wordName place reversed =>
    refine .inr fun c starts => fails_of_foreign starts fun s' taken => ?_
    simp only [State.take, mode] at taken
    rw [mode] at inClass
    exact ((within.imp False.elim).takeWordName inClass taken).2
  | escape place => exact absurd mode (unescaped place)
  | propertyOpen place negated => simp [mode, Mode.namesProperty] at unnamed
  | propertyName place negated reversed => simp [mode, Mode.namesProperty] at unnamed
  -- The remaining modes are those of a class.
  | _ => simp [mode, Mode.inClass] at inClass

/-- Outside of classes and names of properties, anchors and backslashes are all taken among items,
or all refused. -/
theorem Coherent.step_anchors (coherent : s.Coherent) (dense : s.Dense)
    (scan : s.scan = resting 0) (unnamed : s.ahead = none → s.mode.namesProperty = false) :
    TakesAnchors s.step ∨ RefusesAnchors s.step := by
  have classes : s.classes = [] := classes_of_scan scan
  have inClass : s.mode.inClass = false := by simpa [classes] using coherent.inClass
  -- Only whether a character is taken matters, so nothing is watched.
  have within : State.Within ⟨True, False⟩ 0 False { s with actions := [], ahead := none } :=
    ⟨rfl, dense, by simp [classes], by simp, False.elim⟩
  -- A question is answered in the negative by all three, and they are taken behind it.
  cases ahead : s.ahead with
  | none =>
    have same : s.step = State.take { s with actions := [], ahead := none } := by
      rw [← ahead]
      exact funext (dense.step_take ahead)
    rw [same]
    refine within.take_anchors inClass (unnamed ahead) fun place mode => ?_
    -- Behind a backslash, the scan would be one behind a backslash.
    simp [State.scan, ahead, show s.mode = .escape place from mode, resting] at scan
  | some question =>
    have step (c : Char) :
        s.step c = State.resolve { s with actions := [], ahead := none } question c := by
      have stepped := dense.step c
      rw [ahead] at stepped
      exact stepped
    have suits := coherent.suits question ahead
    -- Only two questions are asked outside of classes.
    cases question with
    | lazy =>
      -- An anchor makes no repetition lazy.
      have mode : s.mode = .items := suits
      refine .inl ⟨_, rfl, within.dense, fun c starts => ?_⟩
      have other : c ≠ '?' := by rcases starts with rfl | rfl | rfl <;> decide
      rw [step, State.resolve, if_neg other, within.dense.advance]
      simp only [State.take, mode]
    | wordBoundary place =>
      -- The boundary is complete, and the character is taken behind it.
      have mode : s.mode = .escape place := suits
      obtain rfl : place = .item := by
        rw [mode] at inClass
        cases place with
        | item => rfl
        | member => cases inClass
        | rangeEnd first => cases inClass
      refine .inl ⟨State.addItem { s with actions := [], ahead := none }
        (.atom (.assertion .wordBoundary)), rfl, within.dense, fun c starts => ?_⟩
      have other : c ≠ '\x7b' := by rcases starts with rfl | rfl | rfl <;> decide
      have dense : (State.addItem { s with actions := [], ahead := none }
        (.atom (.assertion .wordBoundary))).Dense := within.dense
      rw [step, State.resolve, if_neg other]
      exact dense.advance c
    | doubled d => simp [suits.1, Mode.inClass] at inClass
    | inner => simp [show s.mode = .classBody from suits, Mode.inClass] at inClass
    | named seen => simp [suits.1, Mode.inClass] at inClass
    | hyphen first gap => simp [suits.1, Mode.inClass] at inClass

end State

end NamedParams.Regex
