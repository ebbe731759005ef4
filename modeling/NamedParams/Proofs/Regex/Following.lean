import NamedParams.Proofs.Regex.Questions

/-! Every character moves the scan of classes, unless a property is asked for by a foreign name. -/

namespace NamedParams.Regex

/-- Where the escape that is being read belongs. -/
def Mode.place? : Mode → Option Place
  | .escape place | .hexOpen place _ | .hexDigits place _ _ _ | .hexBrace place _
  | .propertyOpen place _ | .propertyName place _ _ | .wordBrace place | .wordName place _ =>
    some place
  | _ => none

namespace State

open Anchors.Scan (resting follow follow_outside)
open Unicode (isForeign)

variable {w : Watch} {depth : Nat} {s s' : State} {c : Char}

/-- The next character belongs to the flags of a group. -/
def ReadsFlags (s : State) : Prop :=
  s.ahead = none ∧ (s.mode = .groupQuestion ∨ ∃ scan, s.mode = .flags scan)

/-- Outside of classes and escapes nothing special is left for the next character. -/
theorem isPlain_of_outside (inClass : s.mode.inClass = false) (unescaped : s.mode.place? = none) :
    s.mode.isPlain = true := by
  -- The modes that leave something special are those of escapes and of classes.
  cases mode : s.mode <;> simp_all [Mode.inClass, Mode.place?, Mode.isPlain]

/-- Within an escape, only the backslash leaves something special for the next character. -/
theorem isPlain_of_escaped {place : Place} (escaped : s.mode.place? = some place)
    (notEscape : s.mode ≠ .escape place) : s.mode.isPlain = true := by
  -- Behind the backslash, no mode of an escape leaves anything special.
  cases mode : s.mode <;> simp_all [Mode.place?, Mode.isPlain]

/-- Outside of classes and escapes no property is asked for. -/
theorem not_foreign_of_outside (inClass : s.mode.inClass = false)
    (unescaped : s.mode.place? = none) : ¬ s.mode.Foreign := by
  -- Only an escape and what starts a range could ask for one.
  cases mode : s.mode <;> simp_all [Mode.inClass, Mode.place?, Mode.Foreign]

/-- In most modes the scan is moved from where nothing is special. -/
theorem Within.moved (within : s.Within w depth pending) (plain : s.mode.isPlain = true)
    (unnamed : ∀ reversed, s.mode ≠ .groupName reversed) :
    s.moved c = (resting depth).follow c := by
  -- Only the names of groups and the ends of ranges take a bracket that opens nothing.
  have takes : s.takesBracket = false := by
    unfold takesBracket
    rw [within.ahead]
    split <;> simp_all
  simp [State.moved, takes, scan_of_isPlain within.ahead plain, within.depth]

/-- A character that is not foreign leaves the scan as it is, where nothing is special. -/
theorem Ready.at_plain (result : s'.Ready w depth ∧ isForeign c = false) :
    s'.At w ((resting depth).follow c) := by
  -- A character that is not foreign does not move the scan.
  rw [follow_of_not_foreign result.2]
  exact result.1.at

/-- A character of the name of a group moves the scan, unless it is an opening bracket. -/
theorem Within.takeGroupName_at (within : s.Within w 0 False) {reversed : List Char}
    (taken : s.takeGroupName reversed c = .ok s') :
    s'.At w (if c = '[' then resting 0 else (resting 0).follow c) := by
  -- A closing bracket in a name closes nothing, as no class is open.
  obtain ⟨ready, notEscape⟩ := within.takeGroupName taken
  split
  · exact ready.at
  · rename_i notOpen
    rw [follow_outside notEscape notOpen]
    exact ready.at

/-- A character outside of classes that belongs to no escape moves the scan, unless it is an opening
bracket in the name of a group. -/
theorem Within.takeOutside (within : s.Within w 0 False) (inClass : s.mode.inClass = false)
    (unescaped : s.mode.place? = none) (anchor : c = '^' ∨ c = '$' → w.anchor)
    (taken : s.take c = .ok s') (keeps : s.ReadsFlags → s'.KeepsBlanks) :
    s'.At w (s.moved c) := by
  -- In all modes but one the scan is moved from where nothing is special.
  have moved (unnamed : ∀ reversed, s.mode ≠ .groupName reversed) :
      s.moved c = (resting 0).follow c :=
    within.moved (isPlain_of_outside inClass unescaped) unnamed
  cases mode : s.mode with
  | items =>
    simp only [State.take, mode] at taken
    rw [moved (by simp [mode])]
    exact takeItem_at within mode anchor taken
  | counted =>
    simp only [State.take, mode] at taken
    rw [moved (by simp [mode])]
    have items : Within w 0 False { s with mode := .items } := within.withMode .items
    split at taken
    · rename_i mark
      cases taken
      exact Ready.at_plain ⟨items.ready rfl rfl False.elim, mark ▸ rfl⟩
    · exact takeItem_at items rfl anchor taken
  | countLeast scan =>
    simp only [State.take, mode] at taken
    rw [moved (by simp [mode])]
    exact Ready.at_plain (within.takeCountLeast taken)
  | countComma least =>
    simp only [State.take, mode] at taken
    rw [moved (by simp [mode])]
    exact Ready.at_plain (within.takeCountComma taken)
  | countMost least scan =>
    simp only [State.take, mode] at taken
    rw [moved (by simp [mode])]
    exact Ready.at_plain (within.takeCountMost taken)
  | groupOpen =>
    simp only [State.take, mode] at taken
    rw [moved (by simp [mode])]
    split at taken
    · rename_i mark
      cases taken
      exact Ready.at_plain ⟨within.ready rfl rfl False.elim, mark ▸ rfl⟩
    · -- The character is the first one in the group.
      have opened : (s.openGroup true .none).Ready w 0 := within.openGroup id true List.not_mem_nil
      exact takeItem_at (opened.within.imp id) rfl anchor taken
  | groupQuestion =>
    simp only [State.take, mode] at taken
    rw [moved (by simp [mode])]
    exact Ready.at_plain (within.takeGroupQuestion taken (keeps ⟨within.ahead, .inl mode⟩))
  | groupAngle =>
    simp only [State.take, mode] at taken
    rw [moved (by simp [mode])]
    unfold takeGroupAngle at taken
    split at taken
    · cases taken
    · -- The first character of a name is no bracket.
      have notOpen : c ≠ '[' := by
        rintro rfl
        simp [State.takeGroupName, isNameChar, Unicode.isNameLetter] at taken
      simpa [notOpen] using within.takeGroupName_at taken
  | groupLetter =>
    simp only [State.take, mode] at taken
    rw [moved (by simp [mode])]
    split at taken <;> cases taken
    rename_i angle
    exact Ready.at_plain ⟨within.ready rfl rfl False.elim, angle ▸ rfl⟩
  | groupName reversed =>
    simp only [State.take, mode] at taken
    have same : s.moved c = if c = '[' then resting 0 else (resting 0).follow c := by
      simp [State.moved, takesBracket, State.scan, within.ahead, mode, within.depth]
    rw [same]
    exact within.takeGroupName_at taken
  | flags scan =>
    simp only [State.take, mode] at taken
    rw [moved (by simp [mode])]
    exact Ready.at_plain (within.takeFlag taken (keeps ⟨within.ahead, .inr ⟨scan, mode⟩⟩))
  | _ => simp [mode, Mode.inClass, Mode.place?] at inClass unescaped

/-- A character of an escape moves the scan, unless it belongs to the name of a property. -/
theorem Within.takeEscaped (within : s.Within w depth s.mode.Foreign)
    (inClass : s.mode.inClass = decide (0 < depth)) {place : Place}
    (escaped : s.mode.place? = some place) (other : s.mode.namesProperty = false)
    (taken : s.take c = .ok s') : s'.At w (s.moved c) := by
  -- Behind the backslash itself any character is content, and further ones are not special.
  have moved (notEscape : s.mode ≠ .escape place) : s.moved c = (resting depth).follow c :=
    within.moved (isPlain_of_escaped escaped notEscape) fun reversed mode => by
      simp [mode, Mode.place?] at escaped
  cases mode : s.mode with
  | escape inner =>
    -- The scan waits for the character too, and takes it as content whatever it is.
    obtain rfl : inner = place := by simpa [mode, Mode.place?] using escaped
    have same : s.moved c = resting depth := by
      simp [State.moved, takesBracket, State.scan, within.ahead, mode, within.depth, follow,
        resting]
    simp only [State.take, mode] at taken
    rw [mode] at within inClass
    rw [same]
    exact within.takeEscape mode inClass taken
  | hexOpen inner digits =>
    -- The characters of codes are not foreign.
    obtain rfl : inner = place := by simpa [mode, Mode.place?] using escaped
    simp only [State.take, mode] at taken
    rw [moved (by simp [mode])]
    rw [mode] at within inClass
    exact Ready.at_plain (within.takeHexOpen inClass taken)
  | hexDigits inner byteForm missing value =>
    obtain rfl : inner = place := by simpa [mode, Mode.place?] using escaped
    simp only [State.take, mode] at taken
    rw [moved (by simp [mode])]
    rw [mode] at within inClass
    exact Ready.at_plain (within.takeHexDigit inClass taken)
  | hexBrace inner value =>
    obtain rfl : inner = place := by simpa [mode, Mode.place?] using escaped
    simp only [State.take, mode] at taken
    rw [moved (by simp [mode])]
    rw [mode] at within inClass
    exact Ready.at_plain (within.takeHexBrace inClass taken)
  | wordBrace inner =>
    -- Neither are those of names of boundaries.
    obtain rfl : inner = place := by simpa [mode, Mode.place?] using escaped
    simp only [State.take, mode] at taken
    rw [moved (by simp [mode])]
    rw [mode] at within inClass
    exact Ready.at_plain (within.takeWordBrace inClass taken)
  | wordName inner reversed =>
    obtain rfl : inner = place := by simpa [mode, Mode.place?] using escaped
    simp only [State.take, mode] at taken
    rw [moved (by simp [mode])]
    rw [mode] at within inClass
    exact Ready.at_plain (within.takeWordName inClass taken)
  | propertyOpen inner negated => simp [mode, Mode.namesProperty] at other
  | propertyName inner negated reversed => simp [mode, Mode.namesProperty] at other
  | _ => simp [mode, Mode.place?] at escaped

/-- A character of the name of a property moves no scan; a foreign one is kept in mind. -/
theorem Within.takeProperty (within : s.Within w depth (s.mode.Foreign ∨ isForeign c = true))
    (inClass : s.mode.inClass = decide (0 < depth)) (names : s.mode.namesProperty = true)
    (taken : s.take c = .ok s') :
    s'.At w (resting depth) ∧ s.moved c = (resting depth).follow c := by
  -- The reading takes brackets in such a name as they are, where the scan would open a class.
  cases mode : s.mode with
  | propertyOpen place negated =>
    simp only [State.take, mode] at taken
    have same : s.moved c = (resting depth).follow c :=
      within.moved (by rw [mode]; rfl) (by simp [mode])
    rw [mode] at within inClass
    exact ⟨(within.takePropertyOpen inClass taken).at, same⟩
  | propertyName place negated reversed =>
    simp only [State.take, mode] at taken
    have same : s.moved c = (resting depth).follow c :=
      within.moved (by rw [mode]; rfl) (by simp [mode])
    rw [mode] at within inClass
    exact ⟨(within.takePropertyName inClass taken).at, same⟩
  | _ => simp [mode, Mode.namesProperty] at names

/-- A character inside of a class that belongs to no escape moves the scan. -/
theorem Within.takeInside (within : s.Within w (depth + 1) s.mode.Foreign)
    (inClass : s.mode.inClass = true) (settled : ∀ first, s.mode ≠ .rangeEnd first)
    (unescaped : s.mode.place? = none) (taken : s.take c = .ok s') : s'.At w (s.moved c) := by
  -- At the start of a class the position matters, behind it nothing does.
  cases mode : s.mode with
  | classOpen opening =>
    have same : s.moved c = follow ⟨false, depth + 1, opening.position⟩ c := by
      cases opening <;> simp [State.moved, takesBracket, State.scan, within.ahead, mode,
        within.depth, Opening.position, resting]
    simp only [State.take, mode] at taken
    rw [mode] at within
    rw [same]
    exact within.takeOpening taken
  | classBody =>
    -- Behind the start of a class, all members are waited for alike.
    have ready : s.Ready w (depth + 1) := ⟨within, by simp [inClass], by rw [mode]; rfl⟩
    rw [within.moved (by rw [mode]; rfl) (by simp [mode])]
    exact ready.take_between (by rw [mode]; rfl) (by simp) taken
  | afterMember first =>
    have ready : s.Ready w (depth + 1) := ⟨within, by simp [inClass], by rw [mode]; rfl⟩
    rw [within.moved (by rw [mode]; rfl) (by simp [mode])]
    exact ready.take_between (by rw [mode]; rfl) (by simp) taken
  | rangeEnd first => exact absurd mode (settled first)
  | _ => simp [mode, Mode.inClass, Mode.place?] at inClass unescaped

/-- A character that does not belong to the name of a property moves the scan. -/
theorem Within.take (within : s.Within w depth s.mode.Foreign)
    (inClass : s.mode.inClass = decide (0 < depth)) (settled : ∀ first, s.mode ≠ .rangeEnd first)
    (other : s.mode.namesProperty = false)
    (anchor : s.scan = resting 0 → c = '^' ∨ c = '$' → w.anchor)
    (taken : s.take c = .ok s') (keeps : s.ReadsFlags → s'.KeepsBlanks) :
    s'.At w (s.moved c) := by
  -- The modes are those of an escape, those outside of classes and those inside.
  cases escaped : s.mode.place? with
  | some place => exact within.takeEscaped inClass escaped other taken
  | none =>
    cases depth with
    | zero =>
      have outside : s.mode.inClass = false := by simpa using inClass
      have scan : s.scan = resting 0 := by
        rw [scan_of_isPlain within.ahead (isPlain_of_outside outside escaped), within.depth]
      have unchanged : s.Within w 0 False :=
        within.imp (not_foreign_of_outside outside escaped)
      exact unchanged.takeOutside outside escaped (anchor scan) taken keeps
    | succ outer => exact within.takeInside (by simpa using inClass) settled escaped taken

/-- Where blanks count, every character is taken or answers a question. -/
theorem Dense.step (dense : s.Dense) (c : Char) :
    s.step c =
      match s.ahead with
      | some question => State.resolve { s with actions := [], ahead := none } question c
      | none => State.advance { s with actions := [] } c := by
  -- As no comment is open, only the question is left to tell apart.
  have counted : ¬ s.inComment = true := by simp [dense.2.1]
  refine (if_neg counted).trans ?_
  cases s.ahead <;> rfl

/-- Where blanks count and nothing is asked, every character is taken. -/
theorem Dense.step_take (dense : s.Dense) (ahead : s.ahead = none) (c : Char) :
    s.step c = State.take { s with actions := [] } c := by
  -- Where nothing is asked the character is taken, and no blank is skipped.
  have fresh : State.Dense { s with actions := [] } := dense
  rw [dense.step]
  split
  · simp_all
  · exact fresh.advance c

/-- A character asks for a property by a foreign name. -/
def NamesForeign (s : State) (c : Char) : Prop :=
  s.ahead = none ∧ s.mode.namesProperty = true ∧ isForeign c = true

/-- What is watched while a character is taken: anchors outside of classes, and foreign names. -/
def watch (s : State) (c : Char) : Watch where
  anchor := s.scan = resting 0 ∧ (c = '^' ∨ c = '$')
  foreign := State.Foreign { s with actions := [] } ∨ s.NamesForeign c

/-- A question that is asked outside of classes leaves nothing special for the next character. -/
theorem Coherent.scan_of_ahead (coherent : s.Coherent) {question : Ahead}
    (ahead : s.ahead = some question) (outside : s.classes.length = 0) : s.scan = resting 0 := by
  -- Questions about classes are asked inside of them.
  have inClass := coherent.inClass
  have suits := coherent.suits question ahead
  simp only [outside, Nat.lt_irrefl, decide_false] at inClass
  cases question <;> simp_all [Ahead.Suits, State.scan, Mode.inClass]

/-- Every character moves the scan, unless it asks for a property by a foreign name. -/
theorem Coherent.step (coherent : s.Coherent) (dense : s.Dense) (stepped : s.step c = .ok s')
    (keeps : s.ReadsFlags → s'.KeepsBlanks) :
    ∃ scan, s'.At (s.watch c) scan ∧ (s.NamesForeign c ∨ scan = s.moved c) := by
  -- The character answers what is asked, or is taken in its mode; either way the state stays
  -- coherent.
  rw [dense.step] at stepped
  split at stepped
  · -- The character answers a question.
    rename_i question ahead
    have within : Within (s.watch c) s.classes.length s.mode.Foreign
        { s with actions := [], ahead := none } := by
      refine ⟨rfl, dense, rfl, by simp, ?_⟩
      rintro (foreign | ⟨nothing, _⟩)
      · exact foreign
      · simp [ahead] at nothing
    have same : State.moved { s with actions := [], ahead := some question } c = s.moved c := by
      rw [← ahead]
      rfl
    have anchor (outside : s.classes.length = 0) (anchor : c = '^' ∨ c = '$') :
        (s.watch c).anchor := ⟨coherent.scan_of_ahead ahead outside, anchor⟩
    have here := Within.resolve (s := { s with actions := [], ahead := none }) within
      coherent.inClass (coherent.suits question ahead) anchor stepped
    exact ⟨s.moved c, same ▸ here, .inr rfl⟩
  · -- The character is taken.
    rename_i ahead
    have fresh : State.Dense { s with actions := [] } := dense
    rw [fresh.advance] at stepped
    have same : State.moved { s with actions := [] } c = s.moved c := rfl
    by_cases names : s.mode.namesProperty = true
    · have within : Within (s.watch c) s.classes.length (s.mode.Foreign ∨ isForeign c = true)
          { s with actions := [] } := by
        refine ⟨ahead, dense, rfl, by simp, ?_⟩
        rintro ((half | whole) | ⟨_, _, foreign⟩)
        · exact .inl (.inl half)
        · exact .inr whole
        · exact .inl (.inr foreign)
      obtain ⟨here, moved⟩ := Within.takeProperty (s := { s with actions := [] }) within
        coherent.inClass names stepped
      refine ⟨_, here, ?_⟩
      -- Where the name is foreign the scan is lost, but what is lost with it is kept in mind.
      by_cases foreign : isForeign c = true
      · exact .inl ⟨ahead, names, foreign⟩
      · rw [← same, moved, follow_of_not_foreign (by simpa using foreign)]
        exact .inr rfl
    · have within : Within (s.watch c) s.classes.length s.mode.Foreign
          { s with actions := [] } := by
        refine ⟨ahead, dense, rfl, by simp, ?_⟩
        rintro (foreign | ⟨_, named, _⟩)
        · exact foreign
        · exact absurd named names
      refine ⟨s.moved c, ?_, .inr rfl⟩
      exact Within.take (s := { s with actions := [] }) within coherent.inClass coherent.settled
        (by simpa using names) (fun scan anchor => ⟨scan, anchor⟩) stepped keeps

/-- An expression ends outside of classes, where nothing is half read, and with no change of flags
and no anchor that could count for lines. -/
theorem Coherent.finish (coherent : s.Coherent) (finished : s.finish = .ok s') :
    ¬ s.mode.Foreign ∧ s.classes = [] ∧
      ∀ action ∈ s'.actions, ∀ leaf ∈ action.leaves, leaf.IgnoresLines := by
  -- Only between items an expression ends, which is where no class is open.
  have closed (inClass : s.mode.inClass = false) : s.classes = [] := by
    simpa [inClass] using coherent.inClass
  have ended {t t' : State} (finished : t.finishMode = .ok t') :
      t' = t ∧ (t.mode = .items ∨ t.mode = .counted) := by
    cases mode : t.mode <;> simp [finishMode, mode] at finished <;> simp [finished]
  unfold State.finish at finished
  simp only at finished
  split at finished
  · obtain ⟨rfl, mode⟩ := ended finished
    simp only at mode
    rcases mode with mode | mode <;>
      exact ⟨by simp [mode, Mode.Foreign], closed (by rw [mode]; rfl), by simp⟩
  · obtain ⟨rfl, mode⟩ := ended finished
    simp only at mode
    rcases mode with mode | mode <;>
      exact ⟨by simp [mode, Mode.Foreign], closed (by rw [mode]; rfl), by simp⟩
  · -- A word boundary is complete now that no brace follows it.
    rename_i place ahead
    obtain ⟨placed, boundary, finished⟩ := bind_eq_ok.1 finished
    obtain ⟨rfl, ends⟩ := ended finished
    have mode : s.mode = .escape place := coherent.suits _ ahead
    cases place with
    | item =>
      cases boundary
      refine ⟨by simp [mode, Mode.Foreign, Place.Foreign], closed (by rw [mode]; rfl), ?_⟩
      simp [State.addItem, State.note, Action.leaves, Leaf.IgnoresLines]
    | member =>
      cases boundary
      simp at ends
    | rangeEnd first =>
      obtain ⟨member, _, rfl⟩ := map_eq_ok.1 boundary
      simp [State.addMember] at ends
  · cases finished

end State

end NamedParams.Regex
