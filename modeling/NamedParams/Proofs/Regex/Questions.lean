import NamedParams.Proofs.Regex.Atoms
import NamedParams.Proofs.Regex.Members

/-! Characters that answer a question, and how they move the scan of classes. -/

namespace NamedParams.Regex

open Anchors.Scan (resting follow follow_plain follow_close)
open Unicode (isForeign isForeign_eq_true)

/-- A character that is not foreign leaves the scan as it is, where nothing is special. -/
theorem follow_of_not_foreign {c : Char} (plain : isForeign c = false) (depth : Nat) :
    (resting depth).follow c = resting depth := by
  -- Brackets and the backslash are among the foreign characters.
  rw [← Bool.not_eq_true, isForeign_eq_true] at plain
  simp only [not_or] at plain
  exact follow_plain plain.2.2.1 plain.1 plain.2.1

namespace PosixClass

/-- Every named class is written with characters of names and a closing bracket. -/
theorem exists_front_of_mem_forms {form : List Char × PosixClass × Bool} (among : form ∈ forms) :
    ∃ front : List Char, form.1 = front ++ [']'] ∧ ∀ c ∈ front, isNamePart c = true := by
  have letters (name : PosixClass) : ∀ c ∈ name.name.toList, isNamePart c = true := by
    have all : name.name.toList.all isNamePart = true := by cases name <;> decide
    exact List.all_eq_true.1 all
  obtain ⟨name, _, written⟩ := List.mem_flatMap.1 among
  simp only [List.mem_cons, List.not_mem_nil, or_false] at written
  -- The plain form and the negated one differ by a caret only.
  rcases written with rfl | rfl
  · refine ⟨':' :: (name.name.toList ++ [':']), by simp, fun c member => ?_⟩
    simp only [List.mem_cons, List.mem_append, List.not_mem_nil, or_false] at member
    rcases member with rfl | letter | rfl
    · rfl
    · exact letters name c letter
    · rfl
  · refine ⟨':' :: '^' :: (name.name.toList ++ [':']), by simp, fun c member => ?_⟩
    simp only [List.mem_cons, List.mem_append, List.not_mem_nil, or_false] at member
    rcases member with rfl | rfl | letter | rfl
    · rfl
    · rfl
    · exact letters name c letter
    · rfl

/-- A character of the name of a class leaves the scan as it is, where nothing is special. -/
theorem follow_of_isNamePart {c : Char} (part : isNamePart c = true) (depth : Nat) :
    (resting depth).follow c = resting depth := by
  -- It is neither a bracket nor a backslash.
  have other {d : Char} (outside : isNamePart d = false) : c ≠ d :=
    fun same => absurd part (by simp [same, outside])
  exact follow_plain (other (by decide)) (other (by decide)) (other (by decide))

/-- The last character of what may still become a named class leaves the scan as it is. -/
theorem Started.follow_last {seen : List Char} {c : Char} (started : Started (seen ++ [c]))
    (depth : Nat) : (resting depth).follow c = resting depth := by
  -- It is the colon, or one of the characters behind it.
  obtain ⟨rest, same, parts⟩ := started
  rcases List.mem_cons.1 (same ▸ List.mem_append_right seen List.mem_cons_self) with rfl | among
  · exact follow_of_isNamePart (by decide) depth
  · exact follow_of_isNamePart (parts c among) depth

/-- A named class ends with a closing bracket. -/
theorem eq_close_of_ofForm? {seen : List Char} {c : Char} {written : PosixClass × Bool}
    (form : ofForm? (seen ++ [c]) = some written) : c = ']' := by
  -- The text is one of the written forms.
  obtain ⟨before, behind, listed, _⟩ := List.lookup_eq_some_iff.1 form
  have among : (seen ++ [c], written) ∈ forms := by simp [listed]
  obtain ⟨front, same, _⟩ := exists_front_of_mem_forms among
  have last : [c] = [']'] := (List.append_inj' same rfl).2
  exact List.singleton_inj.1 last

/-- What may still become a named class goes on with a character of a name. -/
theorem Started.append {seen : List Char} {c : Char} (started : Started seen)
    (start : isFormStart (seen ++ [c]) = true) (unfinished : ofForm? (seen ++ [c]) = none) :
    Started (seen ++ [c]) := by
  -- The text starts a written form without being one, so it ends in front of the bracket.
  obtain ⟨rest, rfl, parts⟩ := started
  obtain ⟨form, among, starts⟩ := List.any_eq_true.1 start
  obtain ⟨front, same, named⟩ := exists_front_of_mem_forms among
  obtain ⟨behind, whole⟩ := List.isPrefixOf_iff_prefix.1 starts
  rw [same] at whole
  have part : isNamePart c = true := by
    rcases List.eq_nil_or_concat behind with rfl | ⟨middle, last, rfl⟩
    · -- The name would have been complete.
      have other := List.lookup_eq_none_iff.1 unfinished form among
      rw [same, ← whole] at other
      simp at other
    · have inside : ':' :: rest ++ [c] ++ middle = front := by
        rw [List.concat_eq_append, ← List.append_assoc] at whole
        exact (List.append_inj' whole rfl).1
      exact named c (by simp [← inside])
  refine ⟨rest ++ [c], rfl, fun d member => ?_⟩
  rcases List.mem_append.1 member with earlier | last
  · exact parts d earlier
  · exact List.mem_singleton.1 last ▸ part

end PosixClass

/-- Whether nothing is half read in front of the next character. -/
def Mode.isBetween : Mode → Bool
  | .items | .classBody | .afterMember _ => true
  | _ => false

namespace State

variable {w : Watch} {depth : Nat} {s s' : State} {c : Char}

/-- Whether an opening bracket stands for itself although no backslash is in front of it. -/
def takesBracket (s : State) : Bool :=
  match s.ahead, s.mode with
  | some (.hyphen _ _), _ => true
  | none, .groupName _ => true
  | _, _ => false

/-- The scan behind one more character. -/
def moved (s : State) (c : Char) : Anchors.Scan :=
  if c = '[' ∧ s.takesBracket = true then s.scan else s.scan.follow c

/-- No backslash stands in front of a bracket that is taken as it is. -/
theorem unescaped_of_takesBracket (takes : s.takesBracket = true) : s.scan.escaped = false := by
  -- It is taken behind a hyphen or in the name of a group.
  unfold takesBracket at takes
  unfold State.scan
  split at takes <;> simp_all [resting]

/-- Where blanks count, every character is taken. -/
theorem Dense.advance (dense : s.Dense) (c : Char) : s.advance c = s.take c := by
  -- No blank is skipped while blanks count.
  simp [State.advance, dense.1]

/-- A character between items or members moves the scan. -/
theorem Ready.take_between (ready : s.Ready w depth) (between : s.mode.isBetween = true)
    (anchor : depth = 0 → c = '^' ∨ c = '$' → w.anchor) (taken : s.take c = .ok s') :
    s'.At w ((resting depth).follow c) := by
  -- The number of open classes says which of these modes are possible.
  obtain ⟨within, inClass, _⟩ := ready
  unfold State.take at taken
  cases mode : s.mode with
  | items =>
    rw [mode] at within inClass taken
    have outside : depth = 0 := by simpa [Mode.inClass] using inClass.symm
    subst outside
    exact takeItem_at (within.imp id) mode (anchor rfl) taken
  | classBody =>
    rw [mode] at within inClass taken
    obtain ⟨outer, rfl⟩ := exists_outer inClass
    exact (within.imp id).takeMember mode taken
  | afterMember first =>
    rw [mode] at within inClass taken
    obtain ⟨outer, rfl⟩ := exists_outer inClass
    exact within.takeAfterMember mode taken
  | _ => simp [mode, Mode.isBetween] at between

/-- Behind an atom that has been put in its place nothing is half read. -/
theorem isBetween_of_place {atom : Atom} {place : Place} (placed : s.place atom place = .ok s') :
    s'.mode.isBetween = true := by
  -- The atom is complete, as an item, as a member or with its range.
  cases place with
  | item =>
    cases placed
    rfl
  | member =>
    cases placed
    rfl
  | rangeEnd first =>
    obtain ⟨member, _, rfl⟩ := map_eq_ok.1 placed
    rfl

/-- In a class, a character of a name is a member like any other. -/
theorem takeMember_name (part : PosixClass.isNamePart c = true) :
    s.takeMember c = .ok { s with mode := .afterMember (.ofChar c) } := by
  -- The characters of names are none of those that are special between members.
  unfold State.takeMember
  split <;> first | rfl | exact absurd part (by decide)

/-- In a class, characters of a name are members like any others. -/
theorem Ready.advance_name (ready : s.Ready w (depth + 1)) {d : Char}
    (mode : s.mode = .afterMember (.ofChar d)) (part : PosixClass.isNamePart c = true)
    (taken : s.advance c = .ok s') :
    s'.Ready w (depth + 1) ∧ s'.mode = .afterMember (.ofChar c) := by
  -- The character before it is complete, as no hyphen follows it.
  obtain ⟨within, inClass, _⟩ := ready
  rw [within.dense.advance, State.take, mode] at taken
  rw [mode] at within
  have added : (s.addMember (.literal ⟨d, false⟩)).Within w (depth + 1) False :=
    within.addMember False.elim
  have next : (s.addMember (.literal ⟨d, false⟩)).takeMember c = .ok s' := by
    have other : c ≠ '-' := fun hyphen => absurd part (hyphen ▸ by decide)
    simpa [takeAfterMember, other, Atom.ofChar, Atom.member] using taken
  rw [takeMember_name part] at next
  cases next
  exact ⟨added.ready (by simp [Mode.inClass]) rfl False.elim, rfl⟩

/-- In a class, many characters of a name are members like any others. -/
theorem Ready.advance_names (ready : s.Ready w (depth + 1))
    (mode : ∃ d, s.mode = .afterMember (.ofChar d)) {text : List Char}
    (parts : ∀ c ∈ text, PosixClass.isNamePart c = true)
    (taken : text.foldlM State.advance s = .ok s') :
    s'.Ready w (depth + 1) ∧ s'.mode.isBetween = true := by
  -- Behind each of them the last character may still start a range.
  induction text generalizing s with
  | nil =>
    cases taken
    obtain ⟨d, mode⟩ := mode
    exact ⟨ready, by rw [mode]; rfl⟩
  | cons c rest ih =>
    obtain ⟨middle, first, last⟩ := bind_eq_ok.1 taken
    obtain ⟨d, mode⟩ := mode
    obtain ⟨ready, mode⟩ := ready.advance_name mode (parts c List.mem_cons_self) first
    exact ih ready ⟨c, mode⟩ (fun other among => parts other (List.mem_cons_of_mem _ among)) last

/-- What was taken for the name of a class is the content of an inner class. -/
theorem Within.replay (within : s.Within w depth False) {seen : List Char}
    (started : PosixClass.Started seen)
    (taken : (seen ++ [c]).foldlM State.advance s.openClass = .ok s') :
    s'.At w ((resting (depth + 1)).follow c) := by
  -- The colon is the first member, the characters of a name are further ones, and the last
  -- character is taken like any other between members.
  obtain ⟨rest, rfl, parts⟩ := started
  have opened : s.openClass.Within w (depth + 1) False := within.openClass
  rw [List.cons_append] at taken
  obtain ⟨colon, first, taken⟩ := bind_eq_ok.1 taken
  rw [List.foldlM_append] at taken
  obtain ⟨named, middle, last⟩ := bind_eq_ok.1 taken
  simp only [List.foldlM_cons, List.foldlM_nil, bind_pure] at last
  rw [opened.dense.advance] at first
  have member : { s.openClass with mode := .classBody }.takeMember ':' = .ok colon := first
  rw [takeMember_name (by decide)] at member
  cases member
  have ready : Ready w (depth + 1) { s.openClass with mode := .afterMember (.ofChar ':') } :=
    opened.ready (by simp [Mode.inClass]) rfl False.elim
  obtain ⟨ready, between⟩ := ready.advance_names ⟨':', rfl⟩ parts middle
  rw [ready.within.dense.advance] at last
  exact ready.take_between between (by simp) last

/-- Where blanks count, a hyphen is doubled, or stands for itself, or joins the ends of a range. -/
theorem resolveHyphen_dense (dense : s.Dense) {first : Atom} :
    s.resolveHyphen first .nothing c =
      if c = '-' then first.member.map fun member => (s.addMember member).setOperator .diff
      else if c = ']' then do
        let apart ← first.member.map fun member =>
          { s.addMember member with mode := .afterMember (.ofChar '-') }
        apart.advance c
      else State.advance { s with mode := .rangeEnd first } c := by
  -- Without blanks to skip, the character right behind the hyphen decides.
  by_cases hyphen : c = '-' <;> simp [State.resolveHyphen, dense.1, hyphen]

/-- The character behind a hyphen moves the scan, unless an opening bracket is the second end of a
range. -/
theorem Within.resolveHyphen {first : Atom} (within : s.Within w (depth + 1) first.Foreign)
    (taken : s.resolveHyphen first .nothing c = .ok s') :
    s'.At w (State.moved { s with ahead := some (.hyphen first .nothing) } c) := by
  -- An open class stays as it is where the range takes the bracket.
  have same : State.moved { s with ahead := some (.hyphen first .nothing) } c =
      if c = '[' then resting (depth + 1) else (resting (depth + 1)).follow c := by
    simp [State.moved, takesBracket, State.scan, within.depth]
  have separate {member : ClassTree} (written : first.member = .ok member) :
      (s.addMember member).Within w (depth + 1) False :=
    within.addMember fun foreign => .inr (Atom.member_foreign written foreign)
  rw [same]
  rw [resolveHyphen_dense within.dense] at taken
  split at taken
  · -- The hyphen is doubled to an operator.
    rename_i hyphen
    obtain ⟨member, written, rfl⟩ := map_eq_ok.1 taken
    subst hyphen
    exact ((separate written).setOperator .diff).at
  · split at taken
    · -- Both the member and the hyphen stand for themselves.
      rename_i close
      obtain ⟨apart, split, taken⟩ := bind_eq_ok.1 taken
      obtain ⟨member, written, rfl⟩ := map_eq_ok.1 split
      subst close
      have ready : Ready w (depth + 1)
          { s.addMember member with mode := .afterMember (.ofChar '-') } :=
        (separate written).ready (by simp [Mode.inClass]) rfl False.elim
      rw [ready.within.dense.advance] at taken
      exact ready.take_between rfl (by simp) taken
    · -- The character starts the second end of a range.
      rename_i notClose
      have range : Within w (depth + 1) first.Foreign { s with mode := .rangeEnd first } :=
        within.withMode _
      rw [range.dense.advance] at taken
      exact range.takeRangeEnd notClose taken

/-- Behind a repetition, a question mark belongs to it and anything else follows it. -/
theorem Within.resolveLazy (within : s.Within w depth s.mode.Foreign)
    (inClass : s.mode.inClass = decide (0 < depth)) (mode : s.mode = .items)
    (anchor : depth = 0 → c = '^' ∨ c = '$' → w.anchor) (taken : s.resolve .lazy c = .ok s') :
    s'.At w ((resting depth).follow c) := by
  -- Either the mark is taken, or the repetition is complete without it.
  have ready : s.Ready w depth := ⟨within, inClass, by rw [mode]; rfl⟩
  unfold State.resolve at taken
  simp only at taken
  split at taken
  · rename_i mark
    cases taken
    subst mark
    rw [follow_plain (by decide) (by decide) (by decide)]
    exact ready.at
  · rw [within.dense.advance] at taken
    exact ready.take_between (by rw [mode]; rfl) anchor taken

/-- Behind a word boundary, a brace may belong to it and anything else follows it. -/
theorem Within.resolveWordBoundary {place : Place} (within : s.Within w depth place.Foreign)
    (inClass : place.inClass = decide (0 < depth))
    (anchor : depth = 0 → c = '^' ∨ c = '$' → w.anchor)
    (taken : s.resolve (.wordBoundary place) c = .ok s') :
    s'.At w ((resting depth).follow c) := by
  -- A brace starts a name or a count.
  unfold State.resolve at taken
  simp only at taken
  split at taken
  · rename_i brace
    cases taken
    subst brace
    have ready : Ready w depth { s with mode := .wordBrace place } := within.ready inClass rfl id
    rw [follow_plain (by decide) (by decide) (by decide)]
    exact ready.at
  · -- The boundary is complete, so the character is taken behind it.
    obtain ⟨placed, boundary, taken⟩ := bind_eq_ok.1 taken
    have ready : placed.Ready w depth := within.placeOther inClass (by simp) (by simp) boundary
    rw [ready.within.dense.advance] at taken
    exact ready.take_between (isBetween_of_place boundary) anchor taken

/-- Behind a character that its double makes an operator, the double is one, and without it the
character is a member. -/
theorem Within.resolveDoubled {d : Char} (within : s.Within w (depth + 1) False)
    (plain : isForeign d = false) (taken : s.resolve (.doubled d) c = .ok s') :
    s'.At w ((resting (depth + 1)).follow c) := by
  -- The character is not foreign, and its double is the same character.
  unfold State.resolve at taken
  simp only at taken
  split at taken
  · rename_i twice
    cases taken
    rw [twice, follow_of_not_foreign plain]
    exact (within.setOperator _).at
  · have ready : Ready w (depth + 1) { s with mode := .afterMember (.ofChar d) } :=
      within.ready (by simp [Mode.inClass]) rfl False.elim
    rw [ready.within.dense.advance] at taken
    exact ready.take_between rfl (by simp) taken

/-- Behind an inner bracket, a class is opened, perhaps a named one. -/
theorem Within.resolveInner (within : s.Within w depth s.mode.Foreign)
    (inClass : s.mode.inClass = decide (0 < depth)) (mode : s.mode = .classBody)
    (taken : s.resolve .inner c = .ok s') : s'.At w (follow ⟨false, depth + 1, .opened⟩ c) := by
  unfold State.resolve at taken
  simp only at taken
  split at taken
  · -- Only behind a colon is the name of a class looked for.
    rename_i colon
    cases taken
    subst colon
    have suits : Ahead.Suits s.mode (.named [':']) := ⟨mode, [], rfl, by simp⟩
    exact within.ask inClass suits (by simp [State.scan, within.depth, follow, resting])
  · rw [mode] at within
    have opened : s.openClass.Within w (depth + 1) False := within.openClass
    rw [opened.dense.advance] at taken
    exact opened.takeOpening taken

/-- In the name of a class, the name is completed, goes on or turns out to be none. -/
theorem Within.resolveNamed {seen : List Char} (within : s.Within w depth s.mode.Foreign)
    (inClass : s.mode.inClass = decide (0 < depth)) (mode : s.mode = .classBody)
    (started : PosixClass.Started seen) (taken : s.resolve (.named seen) c = .ok s') :
    s'.At w ((resting (depth + 1)).follow c) := by
  -- What has been seen is a name, may still become one, or can no longer become one.
  unfold State.resolve at taken
  simp only at taken
  split at taken
  · -- The name is complete: its bracket closes what the first one opened.
    rename_i name negated form
    cases taken
    rw [PosixClass.eq_close_of_ofForm? form, follow_close]
    rw [mode] at within inClass
    obtain ⟨outer, rfl⟩ := exists_outer inClass
    have added : (s.addMember (.posix name negated)).Within w (outer + 1) False :=
      within.addMember False.elim
    have ready : (s.addMember (.posix name negated)).Ready w (outer + 1) :=
      ⟨added.imp False.elim, by simp [State.addMember, Mode.inClass], rfl⟩
    exact ready.at
  · rename_i unfinished
    split at taken
    · -- The name goes on.
      rename_i start
      cases taken
      have longer : PosixClass.Started (seen ++ [c]) := started.append start unfinished
      have suits : Ahead.Suits s.mode (.named (seen ++ [c])) := ⟨mode, longer⟩
      rw [longer.follow_last]
      exact within.ask inClass suits (by simp [State.scan, within.depth])
    · -- The name turns out to be the content of an inner class.
      rw [mode] at within
      exact within.replay started taken

/-- The answer to a question moves the scan. -/
theorem Within.resolve (within : s.Within w depth s.mode.Foreign)
    (inClass : s.mode.inClass = decide (0 < depth)) {question : Ahead}
    (suits : question.Suits s.mode) (anchor : depth = 0 → c = '^' ∨ c = '$' → w.anchor)
    (taken : s.resolve question c = .ok s') :
    s'.At w (State.moved { s with ahead := some question } c) := by
  -- Behind an inner bracket the position matters, and the rest of a range may take a bracket.
  have length := within.depth
  cases question with
  | lazy =>
    have same : State.moved { s with ahead := some .lazy } c = (resting depth).follow c := by
      simp [State.moved, takesBracket, State.scan, length]
    exact same ▸ within.resolveLazy inClass suits anchor taken
  | wordBoundary place =>
    have same : State.moved { s with ahead := some (.wordBoundary place) } c =
        (resting depth).follow c := by
      simp [State.moved, takesBracket, State.scan, length]
    have mode : s.mode = .escape place := suits
    rw [mode] at within inClass
    exact same ▸ within.resolveWordBoundary inClass anchor taken
  | doubled d =>
    have same : State.moved { s with ahead := some (.doubled d) } c = (resting depth).follow c := by
      simp [State.moved, takesBracket, State.scan, length]
    obtain ⟨mode, plain⟩ := suits
    rw [mode] at within inClass
    obtain ⟨outer, rfl⟩ := exists_outer inClass
    exact same ▸ within.resolveDoubled plain taken
  | inner =>
    -- The bracket in front has opened a class for the scan.
    have same : State.moved { s with ahead := some .inner } c =
        follow ⟨false, depth + 1, .opened⟩ c := by
      simp [State.moved, takesBracket, State.scan, length]
    exact same ▸ within.resolveInner inClass suits taken
  | named seen =>
    have same : State.moved { s with ahead := some (.named seen) } c =
        (resting (depth + 1)).follow c := by
      simp [State.moved, takesBracket, State.scan, length]
    obtain ⟨mode, started⟩ := suits
    exact same ▸ within.resolveNamed inClass mode started taken
  | hyphen first gap =>
    -- Only here an opening bracket may stand for itself.
    obtain ⟨mode, rfl⟩ := suits
    rw [mode] at within inClass
    obtain ⟨outer, rfl⟩ := exists_outer inClass
    exact within.resolveHyphen taken

end State

end NamedParams.Regex
