import NamedParams.Proofs.Regex.Situation

/-! Characters inside of classes, and how they move the scan of classes. -/

namespace NamedParams.Regex

open Anchors.Scan (firstPosition resting follow follow_plain follow_close follow_first)

/-- A member written with an atom holds what the atom holds. -/
theorem Atom.member_foreign {atom : Atom} {member : ClassTree} (written : atom.member = .ok member)
    (foreign : atom.Foreign) : member.Foreign := by
  -- A property keeps its name as a member, and no other atom has one.
  cases atom <;> cases written <;> exact foreign

namespace State

variable {w : Watch} {depth : Nat} {s s' : State} {c : Char} {first : Atom}

/-- A character between members moves the scan. -/
theorem Within.takeMember (within : s.Within w (depth + 1) False) (mode : s.mode = .classBody)
    (taken : s.takeMember c = .ok s') : s'.At w ((resting (depth + 1)).follow c) := by
  -- Brackets and operators ask a question first, which says how the scan is moved.
  have inClass : s.mode.inClass = decide (0 < depth + 1) := by
    rw [mode]
    simp [Mode.inClass]
  have asked {question : Ahead} (suits : question.Suits s.mode) {scan : Anchors.Scan}
      (same : State.scan { s with ahead := some question } = scan) :
      At w scan { s with ahead := some question } :=
    (within.imp False.elim).ask inClass suits same
  have doubled {d : Char} (plain : Unicode.isForeign d = false) :
      At w (resting (depth + 1)) { s with ahead := some (.doubled d) } := by
    have suits : Ahead.Suits s.mode (.doubled d) := ⟨mode, plain⟩
    exact asked suits (congrArg resting within.depth)
  unfold State.takeMember at taken
  split at taken
  · -- An opening bracket.
    cases taken
    have suits : Ahead.Suits s.mode .inner := mode
    exact asked suits (by simp [State.scan, within.depth, follow, resting])
  · -- A closing bracket.
    cases taken
    rw [follow_close]
    exact within.closeClass.at
  -- The three characters that are operators where they are doubled.
  · cases taken
    exact doubled rfl
  · cases taken
    exact doubled rfl
  · cases taken
    exact doubled rfl
  · -- A backslash.
    cases taken
    have inside : Place.member.inClass = decide (0 < depth + 1) := by simp [Place.inClass]
    exact within.at_escape inside False.elim
  · rename_i notOpen notClose _ _ _ notEscape
    cases taken
    rw [follow_plain notEscape notOpen notClose]
    exact (within.ready (by simp [Mode.inClass]) rfl False.elim).at

/-- A character at the start of a class moves the scan. -/
theorem Within.takeOpening (within : s.Within w (depth + 1) False) {opening : Opening}
    (taken : s.takeOpening opening c = .ok s') :
    s'.At w (follow ⟨false, depth + 1, opening.position⟩ c) := by
  -- The cases are those of the reader; only the last one takes the character as between members.
  unfold State.takeOpening at taken
  split at taken
  · -- A caret negates directly behind the bracket only.
    rename_i negation
    cases taken
    obtain ⟨rfl, rfl⟩ : c = '^' ∧ opening = .bracket := by simpa using negation
    exact within.negateClass
  · rename_i notNegation
    split at taken
    · -- Hyphens stand for themselves, and brackets do not behind them.
      rename_i hyphen
      cases taken
      subst hyphen
      have added : (s.addMember (.literal ⟨'-', false⟩)).Within w (depth + 1) False :=
        within.addMember False.elim
      cases opening <;> exact added.at_opening .hyphens
    · split at taken
      · -- A closing bracket stands for itself in first position.
        rename_i bracket
        cases taken
        obtain ⟨rfl, notHyphens⟩ : c = ']' ∧ opening ≠ .hyphens := by simpa using bracket
        have added : (s.addMember (.literal ⟨']', false⟩)).Within w (depth + 1) False :=
          within.addMember False.elim
        have ready : (s.addMember (.literal ⟨']', false⟩)).Ready w (depth + 1) :=
          ⟨added.imp False.elim, by simp [State.addMember, Mode.inClass], rfl⟩
        cases opening with
        | hyphens => exact absurd rfl notHyphens
        | _ => exact ready.at
      · -- Anything else means what it means between members.
        rename_i notBracket
        have moved := (within.withMode .classBody).takeMember rfl taken
        cases opening with
        | hyphens => exact moved
        | bracket =>
          have same : follow ⟨false, depth + 1, firstPosition true⟩ c =
              (resting (depth + 1)).follow c :=
            follow_first (by simpa using notBracket) (by simpa using notNegation)
          exact same ▸ moved
        | negated =>
          have same : follow ⟨false, depth + 1, firstPosition false⟩ c =
              (resting (depth + 1)).follow c :=
            follow_first (by simpa using notBracket) (by simp)
          exact same ▸ moved

/-- A character behind a member that may start a range moves the scan. -/
theorem Within.takeAfterMember (within : s.Within w (depth + 1) first.Foreign)
    (mode : s.mode = .afterMember first) (taken : s.takeAfterMember first c = .ok s') :
    s'.At w ((resting (depth + 1)).follow c) := by
  -- A hyphen asks a question, and any other character stands between members.
  unfold State.takeAfterMember at taken
  split at taken
  · -- Whether the hyphen joins a range depends on the character behind it.
    rename_i hyphen
    cases taken
    subst hyphen
    have here : s.Within w (depth + 1) s.mode.Foreign := by
      rw [mode]
      exact within
    have suits : Ahead.Suits s.mode (.hyphen first .nothing) := ⟨mode, rfl⟩
    exact here.ask (by rw [mode]; simp [Mode.inClass]) suits (congrArg resting within.depth)
  · -- The member is complete.
    obtain ⟨member, written, taken⟩ := bind_eq_ok.1 taken
    have added : (s.addMember member).Within w (depth + 1) False :=
      within.addMember fun foreign => .inr (Atom.member_foreign written foreign)
    exact added.takeMember rfl taken

/-- The first character of the second end of a range moves the scan, unless it is an opening
bracket, which stands for itself there. -/
theorem Within.takeRangeEnd (within : s.Within w (depth + 1) first.Foreign) (notClose : c ≠ ']')
    (taken : s.takeRangeEnd first c = .ok s') :
    s'.At w (if c = '[' then resting (depth + 1) else (resting (depth + 1)).follow c) := by
  have inside : (Place.rangeEnd first).inClass = decide (0 < depth + 1) := by simp [Place.inClass]
  -- A backslash starts an escape; anything else is the second end itself.
  unfold State.takeRangeEnd at taken
  split at taken
  · rename_i escape
    cases taken
    subst escape
    exact within.at_escape inside id
  · -- A single character completes the range, an opening bracket too.
    rename_i notEscape
    have ready : s'.Ready w (depth + 1) :=
      within.place inside (absurd ⟨by simp, by simp⟩) .inl taken
    split
    · exact ready.at
    · rename_i notOpen
      rw [follow_plain notEscape notOpen notClose]
      exact ready.at

end State

end NamedParams.Regex
