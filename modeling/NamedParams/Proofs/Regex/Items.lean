import NamedParams.Proofs.Regex.Situation

/-! Characters outside of classes, and how they move the scan of classes. -/

namespace NamedParams.Regex.State

open Anchors.Scan (resting follow_outside)
open Unicode (isForeign isForeign_eq_true)

variable {w : Watch} {depth : Nat} {pending : Prop} {s s' : State} {c : Char}

/-- A group may be opened in which blanks count. -/
theorem Within.openGroup (within : s.Within w 0 pending) (unchanged : ¬ pending) (captures : Bool)
    {change : FlagChange} (keeps : .ignoreSpace ∉ change.on) :
    (s.openGroup captures change).Ready w 0 := by
  -- Behind the group, blanks count if they count in front of it, which they do.
  have noted : (s.note (.openGroup captures change)).Within w 0 False :=
    within.note False.elim fun pends => absurd pends unchanged
  obtain ⟨ahead, ⟨dense, comment, behind⟩, length, anchors, foreign⟩ := noted
  have counted : s.ignoreSpace = false := dense
  have inside : change.apply .ignoreSpace s.ignoreSpace = false := by
    rw [counted, change.apply_false keeps]
  refine ⟨⟨ahead, ⟨inside, comment, fun space member => ?_⟩, length, anchors, foreign⟩, rfl, rfl⟩
  rcases List.mem_cons.1 member with rfl | outer
  · exact dense
  · exact behind space outer

/-- A group may be closed. -/
theorem Within.closeGroup (within : s.Within w 0 False) (closed : s.closeGroup = .ok s') :
    s'.Ready w 0 := by
  -- Blanks counted in front of the group, so they count behind it.
  have noted : (s.note .closeGroup).Within w 0 False := within.note False.elim False.elim
  obtain ⟨ahead, ⟨_, comment, behind⟩, length, anchors, foreign⟩ := noted
  unfold State.closeGroup at closed
  split at closed <;> cases closed
  rename_i space outer same
  have dense : ∀ other ∈ space :: outer, other = false := same ▸ behind
  exact ⟨⟨ahead, ⟨dense space List.mem_cons_self, comment,
    fun other member => dense other (List.mem_cons_of_mem _ member)⟩, length, anchors, foreign⟩,
    rfl, rfl⟩

/-- A character that is taken among items moves the scan, and only an anchor adds one. -/
theorem takeItem_at (within : s.Within w 0 False) (mode : s.mode = .items)
    (anchor : c = '^' ∨ c = '$' → w.anchor) (taken : s.takeItem c = .ok s') :
    s'.At w ((resting 0).follow c) := by
  -- Whatever is noted, the next character is waited for among items again.
  have add {action : Action} (anchors : action.AnchorsLine → w.anchor) :
      (s.addItem action).At w (resting 0) := by
    have noted : (s.note action).Within w 0 False := within.note anchors False.elim
    exact (noted.ready rfl rfl False.elim).at
  have sign (least : Nat) (most : Option Nat) : (s.repeatBySign least most).At w (resting 0) := by
    have noted : (s.note (.repetition least most)).Within w 0 False :=
      within.note False.elim False.elim
    have items : (s.note (.repetition least most)).mode = .items := mode
    have suits : Ahead.Suits (s.note (.repetition least most)).mode .lazy := items
    exact (noted.imp False.elim).ask (by rw [items]; rfl) suits (congrArg resting noted.depth)
  unfold takeItem at taken
  split at taken
  · -- A parenthesis waits for what may follow it.
    cases taken
    exact (within.ready rfl rfl False.elim).at
  · exact (within.closeGroup taken).at
  · -- A bar ends an alternative.
    cases taken
    have noted : (s.note .alternative).Within w 0 False := within.note False.elim False.elim
    have items : (s.note .alternative).mode = .items := mode
    have ready : (s.note .alternative).Ready w 0 :=
      ⟨noted.imp False.elim, by rw [items]; rfl, by rw [items]; rfl⟩
    exact ready.at
  · -- An opening bracket is the one character that leads into a class.
    cases taken
    exact within.openClass.at_opening .bracket
  -- The three signs of repetitions, each of which asks whether a question mark follows.
  · cases taken
    exact sign _ _
  · cases taken
    exact sign _ _
  · cases taken
    exact sign _ _
  · -- A brace starts a count.
    cases taken
    have noted : (s.note .repeatable).Within w 0 False := within.note False.elim False.elim
    exact (noted.ready rfl rfl False.elim).at
  · cases taken
    exact within.at_escape rfl False.elim
  · cases taken
    exact add (absurd ⟨by simp, by simp⟩)
  -- The two anchors, which are what is watched.
  · cases taken
    exact add fun _ => anchor (.inl rfl)
  · cases taken
    exact add fun _ => anchor (.inr rfl)
  · -- Any other character stands for itself.
    rename_i notOpen _ _ _ _ notEscape _ _ _
    cases taken
    rw [follow_outside notEscape notOpen]
    exact add (absurd ⟨by simp, by simp⟩)

/-- A character of a count is not foreign. -/
theorem not_foreign_of_countStep {scan scan' : CountScan}
    (counted : countStep scan c = some scan') : isForeign c = false := by
  -- The foreign characters are neither blanks nor digits.
  rw [← Bool.not_eq_true, isForeign_eq_true]
  rintro (rfl | rfl | rfl | rfl | rfl) <;> simp [countStep, Unicode.isBlank] at counted

/-- A counted repetition may be ended. -/
theorem Within.closeCount (within : s.Within w 0 False) {least : Nat} {most : Option Nat}
    (closed : s.closeCount least most = .ok s') : s'.Ready w 0 := by
  -- Counts in the wrong order are refused, and others are noted with the repetition.
  unfold State.closeCount at closed
  split at closed <;> cases closed
  have noted : (s.note (.repetition least most)).Within w 0 False :=
    within.note False.elim False.elim
  exact noted.ready rfl rfl False.elim

/-- A character of the first count moves no scan. -/
theorem Within.takeCountLeast (within : s.Within w 0 False) {scan : CountScan}
    (taken : s.takeCountLeast scan c = .ok s') : s'.Ready w 0 ∧ isForeign c = false := by
  unfold State.takeCountLeast at taken
  -- A digit goes on with the count, a comma starts the second, and a brace ends the repetition.
  split at taken
  · rename_i counted
    cases taken
    exact ⟨within.ready rfl rfl False.elim, not_foreign_of_countStep counted⟩
  · split at taken
    · rename_i comma
      cases taken
      exact ⟨within.ready rfl rfl False.elim, comma ▸ rfl⟩
    · obtain ⟨count, _, closed⟩ := bind_eq_ok.1 taken
      split at closed
      · rename_i brace
        exact ⟨within.closeCount closed, brace ▸ rfl⟩
      · cases closed

/-- A character of the second count moves no scan. -/
theorem Within.takeCountMost (within : s.Within w 0 False) {least : Nat} {scan : CountScan}
    (taken : s.takeCountMost least scan c = .ok s') : s'.Ready w 0 ∧ isForeign c = false := by
  unfold State.takeCountMost at taken
  -- A digit goes on with the count, and a brace ends the repetition.
  split at taken
  · rename_i counted
    cases taken
    exact ⟨within.ready rfl rfl False.elim, not_foreign_of_countStep counted⟩
  · obtain ⟨count, _, closed⟩ := bind_eq_ok.1 taken
    split at closed
    · rename_i brace
      exact ⟨within.closeCount closed, brace ▸ rfl⟩
    · cases closed

/-- The character behind the comma between two counts moves no scan. -/
theorem Within.takeCountComma (within : s.Within w 0 False) {least : Except Fault Nat}
    (taken : s.takeCountComma least c = .ok s') : s'.Ready w 0 ∧ isForeign c = false := by
  -- A brace leaves the upper count open.
  obtain ⟨count, _, taken⟩ := bind_eq_ok.1 taken
  split at taken
  · rename_i brace
    exact ⟨within.closeCount taken, brace ▸ rfl⟩
  · exact within.takeCountMost taken

/-- Only actions that let blanks count have been noted. -/
def KeepsBlanks (s : State) : Prop :=
  ∀ action ∈ s.actions, ∀ change, .flags change ∈ action.leaves → .ignoreSpace ∉ change.on

/-- A change of flags may be noted behind which blanks count. -/
theorem Within.setFlags (within : s.Within w 0 False) {change : FlagChange}
    (keeps : .ignoreSpace ∉ change.on) :
    Ready w 0 { s.addItem (.setFlags change) with
      ignoreSpace := change.apply .ignoreSpace s.ignoreSpace } := by
  have noted : (s.note (.setFlags change)).Within w 0 False := within.note False.elim False.elim
  obtain ⟨ahead, ⟨dense, comment, behind⟩, length, anchors, foreign⟩ := noted
  -- Blanks count in front of the change, which does not switch that off.
  have counted : s.ignoreSpace = false := dense
  have after : change.apply .ignoreSpace s.ignoreSpace = false := by
    rw [counted, change.apply_false keeps]
  exact ⟨⟨ahead, ⟨after, comment, behind⟩, length, anchors,
    fun here => (foreign here).imp_left False.elim⟩, rfl, rfl⟩

/-- A character of flags moves no scan, where blanks count in the end. -/
theorem Within.takeFlag (within : s.Within w 0 False) {scan : FlagScan}
    (taken : s.takeFlag scan c = .ok s') (keeps : s'.KeepsBlanks) :
    s'.Ready w 0 ∧ isForeign c = false := by
  unfold State.takeFlag at taken
  simp only at taken
  split at taken
  · -- At the end of the flags their change is noted, for a group or for what follows.
    rename_i ends
    have plain : isForeign c = false := by
      rcases (by simpa using ends : c = ':' ∨ c = ')') with rfl | rfl <;> rfl
    split at taken
    · cases taken
    · split at taken
      · cases taken
        have counts := keeps (.openGroup false scan.change) List.mem_cons_self scan.change
          (by simp [Action.leaves])
        exact ⟨within.openGroup id false counts, plain⟩
      · split at taken
        · cases taken
        · cases taken
          have counts := keeps (.setFlags scan.change) List.mem_cons_self scan.change
            (by simp [Action.leaves])
          exact ⟨within.setFlags counts, plain⟩
  · split at taken
    · rename_i hyphen
      split at taken <;> cases taken
      exact ⟨within.ready rfl rfl False.elim, hyphen ▸ rfl⟩
    · split at taken
      · cases taken
      · -- None of the letters is foreign.
        rename_i letter
        split at taken <;> cases taken
        refine ⟨within.ready rfl rfl False.elim, ?_⟩
        rw [← Bool.not_eq_true, isForeign_eq_true]
        rintro (rfl | rfl | rfl | rfl | rfl) <;> cases letter

/-- The character behind an opening parenthesis and a question mark moves no scan. -/
theorem Within.takeGroupQuestion (within : s.Within w 0 False)
    (taken : s.takeGroupQuestion c = .ok s') (keeps : s'.KeepsBlanks) :
    s'.Ready w 0 ∧ isForeign c = false := by
  unfold State.takeGroupQuestion at taken
  -- Names and flags are what may follow.
  split at taken
  · cases taken
  · cases taken
  · cases taken
    exact ⟨within.ready rfl rfl False.elim, rfl⟩
  · cases taken
    exact ⟨within.ready rfl rfl False.elim, rfl⟩
  · exact within.takeFlag taken keeps

/-- A character of the name of a group moves no scan, unless it is an opening bracket. -/
theorem Within.takeGroupName (within : s.Within w 0 False) {reversed : List Char}
    (taken : s.takeGroupName reversed c = .ok s') : s'.Ready w 0 ∧ c ≠ '\\' := by
  unfold State.takeGroupName at taken
  split at taken
  · -- The name ends, and the group starts behind it.
    rename_i close
    simp only at taken
    split at taken
    · cases taken
    · split at taken <;> cases taken
      have opened : (s.openGroup true .none).Ready w 0 := within.openGroup id true List.not_mem_nil
      obtain ⟨⟨ahead, dense, length, anchors, foreign⟩, inClass, plain⟩ := opened
      exact ⟨⟨⟨ahead, dense, length, anchors, foreign⟩, inClass, plain⟩, by simp [close]⟩
  · split at taken <;> cases taken
    rename_i named
    refine ⟨within.ready rfl rfl False.elim, ?_⟩
    -- Brackets belong to names, but backslashes do not.
    rintro rfl
    revert named
    cases reversed.isEmpty <;> decide

end NamedParams.Regex.State
