import NamedParams.Proofs.Regex.Items

/-! Characters of escapes, inside of classes and outside, and how they move the scan of classes. -/

namespace NamedParams.Regex

open Unicode (isForeign isForeign_eq_true)

/-- A text that is split at a mark is what stands before and behind the mark. -/
theorem State.eq_of_splitAtMark {mark text before behind : List Char}
    (split : State.splitAtMark mark text = some (before, behind)) :
    text = before ++ (mark ++ behind) := by
  -- The mark stands at the first place where it is found.
  induction text generalizing before with
  | nil => cases split
  | cons c rest ih =>
    unfold State.splitAtMark at split
    split at split
    · rename_i starts
      cases split
      obtain ⟨behind, same⟩ := List.isPrefixOf_iff_prefix.1 starts
      simp [← same]
    · obtain ⟨⟨front, back⟩, found, same⟩ := Option.map_eq_some_iff.1 split
      cases same
      rw [ih found]
      rfl

/-- A foreign character in the text of a property is one in its name or its value. -/
theorem State.propertyQuery_foreign {text : List Char} (foreign : ∃ c ∈ text, isForeign c = true) :
    (State.propertyQuery text).1.Foreign := by
  -- The text is a name, or a name and a value with a mark between them.
  unfold State.propertyQuery
  simp only
  split
  · rename_i name value differs found
    obtain ⟨⟨mark, _⟩, listed, marked⟩ := List.exists_of_findSome?_eq_some found
    obtain ⟨⟨before, behind⟩, split, same⟩ := Option.map_eq_some_iff.1 marked
    simp only at split
    cases same
    obtain ⟨c, inside, special⟩ := foreign
    rw [State.eq_of_splitAtMark split] at inside
    -- The marks themselves are not foreign.
    have unmarked : c ∉ mark := by
      intro marks
      simp only [List.mem_cons, Prod.mk.injEq, List.not_mem_nil, or_false] at listed
      rcases listed with ⟨rfl, _⟩ | ⟨rfl, _⟩ | ⟨rfl, _⟩ <;>
        rcases isForeign_eq_true.1 special with rfl | rfl | rfl | rfl | rfl <;> simp at marks
    simp only [List.mem_append, unmarked, false_or] at inside
    exact inside.imp (fun front => ⟨c, by simpa using front, special⟩)
      (fun back => ⟨c, by simpa using back, special⟩)
  · obtain ⟨c, inside, special⟩ := foreign
    exact ⟨c, by simpa using inside, special⟩

namespace State

variable {w : Watch} {depth : Nat} {s s' : State} {c : Char} {place : Place}

/-- Putting an atom in its place that is no anchor of lines adds no such anchor. -/
theorem Within.placeOther {atom : Atom} (within : s.Within w depth place.Foreign)
    (inClass : place.inClass = decide (0 < depth)) (notStart : atom ≠ .assertion .lineStart)
    (notEnd : atom ≠ .assertion .lineEnd) (placed : s.place atom place = .ok s') :
    s'.Ready w depth :=
  -- As the atom is no anchor, nothing has to be watched.
  within.place inClass (absurd ⟨notStart, notEnd⟩) .inl placed

/-- A character given by its code point may be put in its place. -/
theorem Within.placeCode (within : s.Within w depth place.Foreign)
    (inClass : place.inClass = decide (0 < depth)) {code : Nat} {byteForm : Bool}
    (placed : s.placeCode code byteForm place = .ok s') : s'.Ready w depth := by
  -- A code point without a character is refused.
  unfold State.placeCode at placed
  split at placed
  · exact within.placeOther inClass (by simp) (by simp) placed
  · cases placed

/-- A hexadecimal digit is not foreign. -/
theorem not_foreign_of_hexDigit? {digit : Nat} (read : hexDigit? c = some digit) :
    isForeign c = false := by
  -- None of the foreign characters is a digit.
  rw [← Bool.not_eq_true, isForeign_eq_true]
  rintro (rfl | rfl | rfl | rfl | rfl) <;> cases read

/-- One of a fixed number of hexadecimal digits moves no scan. -/
theorem Within.takeHexDigit (within : s.Within w depth place.Foreign)
    (inClass : place.inClass = decide (0 < depth)) {byteForm : Bool} {missing value : Nat}
    (taken : s.takeHexDigit place byteForm missing value c = .ok s') :
    s'.Ready w depth ∧ isForeign c = false := by
  -- The last digit completes the code point, the ones before it are collected.
  unfold State.takeHexDigit at taken
  split at taken
  · cases taken
  · rename_i read
    refine ⟨?_, not_foreign_of_hexDigit? read⟩
    simp only at taken
    split at taken
    · exact within.placeCode inClass taken
    · cases taken
      exact within.ready inClass rfl id

/-- A character between braces that give a code point moves no scan. -/
theorem Within.takeHexBrace (within : s.Within w depth place.Foreign)
    (inClass : place.inClass = decide (0 < depth)) {value : Option Nat}
    (taken : s.takeHexBrace place value c = .ok s') :
    s'.Ready w depth ∧ isForeign c = false := by
  unfold State.takeHexBrace at taken
  -- The closing brace completes the code point, and everything else has to be a digit.
  split at taken
  · rename_i brace
    split at taken
    · cases taken
    · exact ⟨within.placeCode inClass taken, brace ▸ rfl⟩
  · split at taken
    · cases taken
    · rename_i read
      cases taken
      exact ⟨within.ready inClass rfl id, not_foreign_of_hexDigit? read⟩

/-- The character behind the letter of a hexadecimal escape moves no scan. -/
theorem Within.takeHexOpen (within : s.Within w depth place.Foreign)
    (inClass : place.inClass = decide (0 < depth)) {digits : Nat}
    (taken : s.takeHexOpen place digits c = .ok s') : s'.Ready w depth ∧ isForeign c = false := by
  -- A brace starts a code of any length, and a digit one of a fixed length.
  unfold State.takeHexOpen at taken
  split at taken
  · rename_i brace
    cases taken
    exact ⟨within.ready inClass rfl id, brace ▸ rfl⟩
  · exact within.takeHexDigit inClass taken

/-- The character behind the letter of a property moves no scan; a foreign one is kept in mind. -/
theorem Within.takePropertyOpen
    (within : s.Within w depth (place.Foreign ∨ isForeign c = true))
    (inClass : place.inClass = decide (0 < depth)) {negated : Bool}
    (taken : s.takePropertyOpen place negated c = .ok s') : s'.Ready w depth := by
  unfold State.takePropertyOpen at taken
  split at taken
  · -- A brace starts a longer name.
    rename_i brace
    cases taken
    subst brace
    exact within.ready inClass rfl (Or.imp_right fun special => by cases special)
  · split at taken
    · cases taken
    · -- Any other character is the name.
      have ignores : (Leaf.atom (.property (.named (String.singleton c)) negated)).IgnoresLines :=
        ⟨nofun, nofun⟩
      exact within.place inClass (absurd ignores)
        (Or.imp_right fun special => ⟨c, by simp, special⟩) taken

/-- A character of the name of a property moves no scan; a foreign one is kept in mind. -/
theorem Within.takePropertyName {negated : Bool} {reversed : List Char}
    (within : s.Within w depth
      ((Mode.propertyName place negated reversed).Foreign ∨ isForeign c = true))
    (inClass : place.inClass = decide (0 < depth))
    (taken : s.takePropertyName place negated reversed c = .ok s') : s'.Ready w depth := by
  -- A brace ends the name, and any other character goes on with it.
  unfold State.takePropertyName at taken
  split at taken
  · -- The name is complete, and with it the query that it writes.
    rename_i brace
    subst brace
    simp only at taken
    generalize queried : propertyQuery reversed.reverse = query at taken
    have ignores : (Leaf.atom (.property query.1 (negated != query.2))).IgnoresLines :=
      ⟨nofun, nofun⟩
    refine within.place inClass (absurd ignores) ?_ taken
    rintro ((first | ⟨d, among, special⟩) | special)
    · exact .inl first
    · exact .inr (queried ▸ propertyQuery_foreign ⟨d, by simpa using among, special⟩)
    · cases special
  · -- The name goes on, and keeps its characters.
    cases taken
    refine within.ready inClass rfl ?_
    rintro ((first | ⟨d, among, special⟩) | special)
    · exact .inl first
    · exact .inr ⟨d, List.mem_cons_of_mem _ among, special⟩
    · exact .inr ⟨c, List.mem_cons_self, special⟩

/-- A character of the name of a word boundary is not foreign. -/
theorem not_foreign_of_isWordNameChar (named : isWordNameChar c = true) : isForeign c = false := by
  -- None of the foreign characters is a letter or a hyphen.
  rw [← Bool.not_eq_true, isForeign_eq_true]
  rintro (rfl | rfl | rfl | rfl | rfl) <;> exact absurd named (by decide)

/-- The first character behind a word boundary and a brace moves no scan. -/
theorem Within.takeWordBrace (within : s.Within w depth place.Foreign)
    (inClass : place.inClass = decide (0 < depth)) (taken : s.takeWordBrace place c = .ok s') :
    s'.Ready w depth ∧ isForeign c = false := by
  unfold State.takeWordBrace at taken
  -- A letter starts a name; otherwise the boundary is complete and the brace starts a count.
  split at taken
  · rename_i named
    cases taken
    exact ⟨within.ready inClass rfl id, not_foreign_of_isWordNameChar named⟩
  · obtain ⟨placed, boundary, taken⟩ := bind_eq_ok.1 taken
    have ready : placed.Ready w depth := within.placeOther inClass (by simp) (by simp) boundary
    split at taken
    · -- The brace counts the repetitions of the boundary.
      have outside : depth = 0 := by simpa [Place.inClass] using inClass.symm
      subst outside
      cases boundary
      have noted : (State.note (s.addItem (.atom (.assertion .wordBoundary)))
          .repeatable).Within w 0 False := (ready.within.imp id).note False.elim False.elim
      exact (noted.withMode _).takeCountLeast taken
    · cases taken

/-- No name is that of an anchor that could count for lines. -/
theorem ignoresLines_of_wordBoundaryNamed? {name : String} {boundary : Assertion}
    (named : wordBoundaryNamed? name = some boundary) :
    (Leaf.atom (.assertion boundary)).IgnoresLines := by
  -- The names are those of boundaries of words.
  unfold wordBoundaryNamed? at named
  split at named <;> cases named <;> exact ⟨nofun, nofun⟩

/-- A character of the name of a word boundary moves no scan. -/
theorem Within.takeWordName (within : s.Within w depth place.Foreign)
    (inClass : place.inClass = decide (0 < depth)) {reversed : List Char}
    (taken : s.takeWordName place reversed c = .ok s') :
    s'.Ready w depth ∧ isForeign c = false := by
  unfold State.takeWordName at taken
  -- The name goes on, or it is complete and has to be known.
  split at taken
  · rename_i named
    cases taken
    exact ⟨within.ready inClass rfl id, not_foreign_of_isWordNameChar named⟩
  · split at taken
    · rename_i brace
      split at taken
      · rename_i named
        have ignores := ignoresLines_of_wordBoundaryNamed? named
        exact ⟨within.placeOther inClass ignores.1 ignores.2 taken, brace ▸ rfl⟩
      · cases taken
    · cases taken

/-- The second character of an escape moves no scan. -/
theorem Within.takeEscape (within : s.Within w depth place.Foreign) (mode : s.mode = .escape place)
    (inClass : place.inClass = decide (0 < depth)) (taken : s.takeEscape place c = .ok s') :
    s'.At w (Anchors.Scan.resting depth) := by
  -- Most escapes are complete atoms, and the others go on without anything special.
  have put {atom : Atom} (notStart : atom ≠ .assertion .lineStart)
      (notEnd : atom ≠ .assertion .lineEnd) (placed : s.place atom place = .ok s') :
      s'.At w (Anchors.Scan.resting depth) :=
    (within.placeOther inClass notStart notEnd placed).at
  have enter {mode : Mode} (here : mode.inClass = decide (0 < depth)) (plain : mode.isPlain = true)
      (kept : place.Foreign → mode.Foreign) :
      At w (Anchors.Scan.resting depth) { s with mode := mode } :=
    (within.ready here plain kept).at
  unfold State.takeEscape at taken
  split at taken
  · cases taken
  · split at taken
    · exact put (by simp) (by simp) taken
    · split at taken
      case h_20 =>
        -- Whether a brace belongs to the boundary is asked behind the escape.
        cases taken
        have here : s.Within w depth s.mode.Foreign := by
          rw [mode]
          exact within
        have suits : Ahead.Suits s.mode (.wordBoundary place) := mode
        exact here.ask (by rw [mode]; exact inClass) suits
          (congrArg Anchors.Scan.resting within.depth)
      all_goals first
        | exact put (by simp) (by simp) taken
        | cases taken; exact enter inClass rfl id
        | cases taken

end State

end NamedParams.Regex
