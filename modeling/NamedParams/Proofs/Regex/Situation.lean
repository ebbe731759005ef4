import NamedParams.Proofs.Pattern.Reference
import NamedParams.Proofs.Regex.Foreign
import NamedParams.Proofs.Regex.Leaves

/-! Where the reading of an expression stands, as far as bracketed classes go. -/

namespace NamedParams.Regex

open Anchors (Scan)
open Anchors.Scan (resting)

/-- A character that stands for itself is no condition on its place. -/
@[simp] theorem Atom.ofChar_ne_assertion (c : Char) (condition : Assertion) :
    Atom.ofChar c ≠ .assertion condition := by
  -- It is a literal.
  simp [Atom.ofChar]

/-- Whether what is being read belongs into a class. -/
def Place.inClass : Place → Bool
  | .item => false
  | .member | .rangeEnd _ => true

/-- Whether the next character belongs into a class. -/
def Mode.inClass : Mode → Bool
  | .escape place | .hexOpen place _ | .hexDigits place _ _ _ | .hexBrace place _
  | .propertyOpen place _ | .propertyName place _ _ | .wordBrace place | .wordName place _ =>
    place.inClass
  | .classOpen _ | .classBody | .afterMember _ | .rangeEnd _ => true
  | _ => false

/-- The position of the scan in a class whose start has been read. -/
def Opening.position : Opening → Anchors.Position
  | .bracket => .opened
  | .negated => .negated
  | .hyphens => .inside

/-- Whether the next character has no special meaning because of the one before it. -/
def Mode.isPlain : Mode → Bool
  | .escape _ | .classOpen .bracket | .classOpen .negated | .rangeEnd _ => false
  | _ => true

/-- Whether the next character belongs to the name of a property. -/
def Mode.namesProperty : Mode → Bool
  | .propertyOpen _ _ | .propertyName _ _ _ => true
  | _ => false

/-- The first end of a range asks for a property by a foreign name. -/
def Place.Foreign : Place → Prop
  | .rangeEnd first => first.Foreign
  | _ => False

/-- What is half read asks for a property by a foreign name. -/
def Mode.Foreign : Mode → Prop
  | .propertyName place _ reversed => place.Foreign ∨ ∃ c ∈ reversed, Unicode.isForeign c = true
  | .escape place | .hexOpen place _ | .hexDigits place _ _ _ | .hexBrace place _
  | .propertyOpen place _ | .wordBrace place | .wordName place _ => place.Foreign
  | .afterMember first | .rangeEnd first => first.Foreign
  | _ => False

/-- Characters that the names of classes are written with. -/
def PosixClass.isNamePart (c : Char) : Bool := c == ':' || c == '^' || c.isLower

/-- A text behind an inner bracket that may still become a named class. -/
def PosixClass.Started (seen : List Char) : Prop :=
  ∃ rest, seen = ':' :: rest ∧ ∀ c ∈ rest, isNamePart c = true

/-- A question that is asked in some mode while blanks count. -/
def Ahead.Suits (mode : Mode) : Ahead → Prop
  | .lazy => mode = .items
  | .wordBoundary place => mode = .escape place
  | .doubled c => mode = .classBody ∧ Unicode.isForeign c = false
  | .inner => mode = .classBody
  | .named seen => mode = .classBody ∧ PosixClass.Started seen
  | .hyphen first gap => mode = .afterMember first ∧ gap = .nothing

/-- A part of an open class asks for a property by a foreign name. -/
def OpenClass.Foreign (c : OpenClass) : Prop :=
  (∃ op left, c.left = some (op, left) ∧ left.Foreign) ∨ ∃ member ∈ c.members, member.Foreign

/-- A union holds what its members hold. -/
theorem ClassTree.foreign_ofMembers {members : List ClassTree} {member : ClassTree}
    (among : member ∈ members) (foreign : member.Foreign) : (ofMembers members).Foreign := by
  -- The union is built member by member, and the foreign one is the first or a later one.
  fun_induction ofMembers members with
  | case1 => cases among
  | case2 only => exact List.mem_singleton.1 among ▸ foreign
  | case3 first rest _ ih =>
    rcases List.mem_cons.1 among with rfl | later
    · exact .inl foreign
    · exact .inr (ih later)

/-- The tree of a class holds what the class holds. -/
theorem OpenClass.Foreign.tree {c : OpenClass} (foreign : c.Foreign) : c.tree.Foreign := by
  -- Either side of an operator keeps what it holds.
  rcases foreign with ⟨op, left, same, foreign⟩ | ⟨member, among, foreign⟩
  · simp only [OpenClass.tree, same]
    exact .inl foreign
  · have members := ClassTree.foreign_ofMembers (List.mem_reverse.2 among) foreign
    unfold OpenClass.tree
    cases c.left with
    | none => exact members
    | some left => exact .inr members

/-- An action adds an anchor that could count for lines. -/
def Action.AnchorsLine : Action → Prop
  | .atom a => ¬ (Leaf.atom a).IgnoresLines
  | _ => False

namespace State

/-- What has been read completely asks for a property by a foreign name. -/
def HoldsForeign (s : State) : Prop :=
  (∃ c ∈ s.classes, c.Foreign) ∨ ∃ action ∈ s.actions, ∃ leaf ∈ action.leaves, leaf.Foreign

/-- What has been read, completely or not, asks for a property by a foreign name. -/
def Foreign (s : State) : Prop := s.mode.Foreign ∨ s.HoldsForeign

/-- The scan of classes that the state amounts to. -/
def scan (s : State) : Scan :=
  match s.ahead with
  | some .inner => ⟨false, s.classes.length + 1, .opened⟩
  | some (.named _) => resting (s.classes.length + 1)
  | some _ => resting s.classes.length
  | none =>
    match s.mode with
    | .escape _ => { resting s.classes.length with escaped := true }
    | .classOpen .bracket => ⟨false, s.classes.length, .opened⟩
    | .classOpen .negated => ⟨false, s.classes.length, .negated⟩
    | _ => resting s.classes.length

/-- Blanks and comments are never ignored. -/
def Dense (s : State) : Prop :=
  s.ignoreSpace = false ∧ s.inComment = false ∧ ∀ space ∈ s.spaceBehind, space = false

/-- The state is one in which characters are waited for while blanks count. -/
structure Coherent (s : State) : Prop where
  inClass : s.mode.inClass = decide (0 < s.classes.length)
  settled : ∀ first, s.mode ≠ .rangeEnd first
  suits : ∀ question, s.ahead = some question → question.Suits s.mode

end State

/-- What is watched while a character is taken. -/
structure Watch where
  /-- Anchors that could count for lines may be added. -/
  anchor : Prop
  /-- A property has been asked for by a foreign name, which must not get lost. -/
  foreign : Prop

namespace State

/-- In the course of taking a character: nothing is asked, and a number of classes is open. What is
watched may also be pending. -/
structure Within (w : Watch) (depth : Nat) (pending : Prop) (s : State) : Prop where
  ahead : s.ahead = none
  dense : s.Dense
  depth : s.classes.length = depth
  anchors : ∀ action ∈ s.actions, action.AnchorsLine → w.anchor
  foreign : w.foreign → pending ∨ s.HoldsForeign

/-- Behind a character: the state amounts to a scan of classes. -/
structure At (w : Watch) (scan : Scan) (s : State) : Prop where
  dense : s.Dense
  coherent : s.Coherent
  scan : s.scan = scan
  anchors : ∀ action ∈ s.actions, action.AnchorsLine → w.anchor
  foreign : w.foreign → s.Foreign

variable {w : Watch} {depth : Nat} {pending : Prop} {s s' : State} {c : Char}

/-- Where nothing is asked, most modes leave nothing special for the next character. -/
theorem scan_of_isPlain (ahead : s.ahead = none) (plain : s.mode.isPlain = true) :
    s.scan = resting s.classes.length := by
  -- Only escapes and the starts of classes leave something special.
  unfold State.scan
  rw [ahead]
  simp only
  split <;> simp_all [Mode.isPlain]

/-- The mode does not matter in the course of taking a character. -/
theorem Within.withMode (within : s.Within w depth pending) (mode : Mode) :
    Within w depth pending { s with mode := mode } :=
  ⟨within.ahead, within.dense, within.depth, within.anchors, within.foreign⟩

/-- What was pending may turn out to be pending elsewhere. -/
theorem Within.imp {pending' : Prop} (within : s.Within w depth pending)
    (moved : pending → pending') : s.Within w depth pending' :=
  ⟨within.ahead, within.dense, within.depth, within.anchors, fun foreign =>
    (within.foreign foreign).imp_left moved⟩

/-- An action may be noted, and takes in what was pending if it holds that. -/
theorem Within.note {pending' : Prop} (within : s.Within w depth pending) {action : Action}
    (anchors : action.AnchorsLine → w.anchor)
    (moved : pending → pending' ∨ ∃ leaf ∈ action.leaves, leaf.Foreign) :
    (s.note action).Within w depth pending' := by
  -- Whatever is watched concerns the new action, or something that was there before.
  refine ⟨within.ahead, within.dense, within.depth, fun other member => ?_, fun foreign => ?_⟩
  · rcases List.mem_cons.1 member with rfl | earlier
    · exact anchors
    · exact within.anchors other earlier
  · -- What was pending is taken in, and what was held is still held.
    rcases within.foreign foreign with pends | open_ | ⟨other, member, held⟩
    · exact (moved pends).imp_right fun held => .inr ⟨action, List.mem_cons_self, held⟩
    · exact .inr (.inl open_)
    · exact .inr (.inr ⟨other, List.mem_cons_of_mem _ member, held⟩)

/-- The innermost class may change, if it takes in what was pending and keeps what it held. -/
theorem Within.withClass {pending' : Prop} {inner inner' : OpenClass} {outer : List OpenClass}
    (within : s.Within w depth pending) (classes : s.classes = inner :: outer)
    (moved : pending → pending' ∨ inner'.Foreign) (kept : inner.Foreign → inner'.Foreign) :
    Within w depth pending' { s with classes := inner' :: outer } := by
  -- The classes around it are the same, and so is the number of classes.
  have length := within.depth
  rw [classes] at length
  refine ⟨within.ahead, within.dense, length, within.anchors, fun foreign => ?_⟩
  rcases within.foreign foreign with pends | ⟨c, member, held⟩ | noted
  · exact (moved pends).imp_right fun held => .inl ⟨inner', List.mem_cons_self, held⟩
  · rw [classes] at member
    rcases List.mem_cons.1 member with rfl | around
    · exact .inr (.inl ⟨inner', List.mem_cons_self, kept held⟩)
    · exact .inr (.inl ⟨c, List.mem_cons_of_mem _ around, held⟩)
  · exact .inr (.inr noted)

/-- A class may be opened. -/
theorem Within.openClass (within : s.Within w depth pending) :
    s.openClass.Within w (depth + 1) pending := by
  -- The new class holds nothing yet.
  refine ⟨within.ahead, within.dense, congrArg (· + 1) within.depth, within.anchors,
    fun foreign => (within.foreign foreign).imp_right fun held => ?_⟩
  exact held.imp_left fun ⟨c, member, here⟩ => ⟨c, List.mem_cons_of_mem _ member, here⟩

/-- With some class open, there is an innermost one. -/
theorem Within.classes (within : s.Within w (depth + 1) pending) :
    ∃ inner outer, s.classes = inner :: outer ∧ outer.length = depth := by
  -- The number of open classes is not zero.
  have length := within.depth
  cases classes : s.classes with
  | nil => simp [classes] at length
  | cons inner outer => exact ⟨inner, outer, rfl, by simpa [classes] using length⟩

/-- A member may be added to the innermost class, and takes in what was pending if it holds that. -/
theorem Within.addMember {pending' : Prop} {member : ClassTree}
    (within : s.Within w (depth + 1) pending) (moved : pending → pending' ∨ member.Foreign) :
    (s.addMember member).Within w (depth + 1) pending' := by
  -- The innermost class keeps its members and its left side.
  obtain ⟨inner, outer, classes, _⟩ := within.classes
  have grown : Within w (depth + 1) pending'
      { s with classes := ⟨inner.negated, inner.left, member :: inner.members⟩ :: outer } :=
    within.withClass classes
      (fun pends => (moved pends).imp_right fun held => .inr ⟨member, by simp, held⟩)
      (Or.imp_right fun ⟨other, among, held⟩ => ⟨other, List.mem_cons_of_mem _ among, held⟩)
  have same : s.addMember member = { s with
      mode := .classBody
      classes := ⟨inner.negated, inner.left, member :: inner.members⟩ :: outer } := by
    simp [State.addMember, classes]
  rw [same]
  exact grown.withMode _

/-- In the course of taking a character: the next one has no special meaning. -/
structure Ready (w : Watch) (depth : Nat) (s : State) : Prop where
  within : s.Within w depth s.mode.Foreign
  inClass : s.mode.inClass = decide (0 < depth)
  plain : s.mode.isPlain = true

/-- A mode without a special meaning may be entered. -/
theorem Within.ready (within : s.Within w depth pending) {mode : Mode}
    (inClass : mode.inClass = decide (0 < depth)) (plain : mode.isPlain = true)
    (moved : pending → mode.Foreign) : Ready w depth { s with mode := mode } :=
  ⟨(within.withMode mode).imp moved, inClass, plain⟩

/-- A plain mode leaves a plain scan. -/
theorem Ready.at (ready : s.Ready w depth) : s.At w (resting depth) := by
  -- What is pending in the mode is part of what the state asks for.
  obtain ⟨⟨ahead, dense, length, anchors, foreign⟩, inClass, plain⟩ := ready
  refine ⟨dense, ⟨length ▸ inClass, ?_, by simp [ahead]⟩, ?_, anchors, foreign⟩
  · intro first mode
    rw [mode] at plain
    cases plain
  · rw [scan_of_isPlain ahead plain, length]

/-- A question may be asked in the mode that it suits. -/
theorem Within.ask (within : s.Within w depth s.mode.Foreign)
    (inClass : s.mode.inClass = decide (0 < depth)) {question : Ahead}
    (suits : question.Suits s.mode) {scan : Scan}
    (same : State.scan { s with ahead := some question } = scan) :
    At w scan { s with ahead := some question } := by
  -- The question is new, and everything else is as it was.
  obtain ⟨_, dense, length, anchors, foreign⟩ := within
  refine ⟨dense, ⟨length ▸ inClass, fun first mode => ?_, ?_⟩, same, anchors, foreign⟩
  · -- No question is asked in front of the second end of a range.
    simp only at mode
    cases question <;> simp [Ahead.Suits, mode] at suits
  · rintro _ ⟨⟩
    exact suits

/-- The start of a class may be waited behind. -/
theorem Within.at_opening (within : s.Within w (depth + 1) False) (opening : Opening) :
    At w ⟨false, depth + 1, opening.position⟩ { s with mode := .classOpen opening } := by
  obtain ⟨ahead, dense, length, anchors, foreign⟩ := within
  refine ⟨dense, ⟨by simp [Mode.inClass, length], by simp, by simp [ahead]⟩, ?_, anchors,
    fun here => .inr ((foreign here).resolve_left id)⟩
  -- Behind each of the three starts the scan has a position of its own.
  cases opening <;> simp [State.scan, ahead, length, Opening.position, resting]

/-- The second character of an escape may be waited for. -/
theorem Within.at_escape (within : s.Within w depth pending) {place : Place}
    (inClass : place.inClass = decide (0 < depth)) (moved : pending → place.Foreign) :
    At w { resting depth with escaped := true } { s with mode := .escape place } := by
  obtain ⟨ahead, dense, length, anchors, foreign⟩ := within
  refine ⟨dense, ⟨length ▸ inClass, by simp, by simp [ahead]⟩, ?_, anchors, fun here =>
    (foreign here).imp_left moved⟩
  -- The scan waits for the character behind the backslash too.
  simp [State.scan, ahead, length]

/-- What belongs into a class is read where some class is open. -/
theorem exists_outer (inClass : true = decide (0 < depth)) : ∃ outer, depth = outer + 1 :=
  Nat.exists_eq_add_one.2 (by simpa using inClass.symm)

/-- An atom may be put in its place, and takes in what was pending there. -/
theorem Within.place (within : s.Within w depth pending) {atom : Atom} {place : Place}
    (inClass : place.inClass = decide (0 < depth))
    (anchors : ¬ (Leaf.atom atom).IgnoresLines → w.anchor)
    (moved : pending → place.Foreign ∨ atom.Foreign) (placed : s.place atom place = .ok s') :
    s'.Ready w depth := by
  cases place with
  | item =>
    -- Outside of classes the atom is an item of its own.
    cases placed
    have noted : (s.note (.atom atom)).Within w depth False := within.note anchors fun pends =>
      .inr ((moved pends).elim False.elim fun held => ⟨.atom atom, by simp [Action.leaves], held⟩)
    exact noted.ready inClass rfl False.elim
  | member =>
    -- A member is kept until it is known whether it starts a range.
    cases placed
    exact within.ready inClass rfl fun pends => (moved pends).elim False.elim id
  | rangeEnd first =>
    obtain ⟨member, range, rfl⟩ := map_eq_ok.1 placed
    obtain ⟨outer, rfl⟩ := exists_outer inClass
    -- Only literals are the ends of a range.
    have literals : ¬ (first.Foreign ∨ atom.Foreign) := by
      cases first <;> cases atom <;> simp_all [Atom.rangeTo, Atom.Foreign]
    have grown : (s.addMember member).Within w (outer + 1) False :=
      within.addMember fun pends => absurd (moved pends) literals
    exact ⟨grown.imp False.elim, by simp [State.addMember, Mode.inClass], rfl⟩

/-- The innermost class may be closed. -/
theorem Within.closeClass (within : s.Within w (depth + 1) False) :
    s.closeClass.Ready w depth := by
  -- What the class holds is pending until its tree has been added.
  obtain ⟨inner, outer, classes, length⟩ := within.classes
  have around : Within w depth inner.tree.Foreign { s with classes := outer } := by
    refine ⟨within.ahead, within.dense, length, within.anchors, fun foreign => ?_⟩
    rcases (within.foreign foreign).resolve_left id with ⟨c, member, held⟩ | noted
    · rw [classes] at member
      rcases List.mem_cons.1 member with rfl | outside
      · exact .inl held.tree
      · exact .inr (.inl ⟨c, outside, held⟩)
    · exact .inr (.inr noted)
  cases outer with
  | nil =>
    -- The outermost class becomes an item.
    have same : s.closeClass =
        { s with classes := [] }.addItem (.bracketed inner.negated inner.tree) := by
      simp [State.closeClass, classes]
    have noted : Within w depth False
        (State.note { s with classes := [] } (.bracketed inner.negated inner.tree)) :=
      around.note False.elim fun held => .inr ⟨.body inner.tree, by simp [Action.leaves], held⟩
    rw [same]
    exact noted.ready (by simp [Mode.inClass, ← length]) rfl False.elim
  | cons next others =>
    -- An inner class becomes a member of the class around it.
    have same : s.closeClass = { s with classes := next :: others }.addMember
        (.bracketed inner.negated inner.tree) := by
      simp [State.closeClass, classes]
    subst length
    have grown : Within w (others.length + 1) False (State.addMember
        { s with classes := next :: others } (.bracketed inner.negated inner.tree)) :=
      around.addMember .inr
    rw [same]
    exact ⟨grown.imp False.elim, by simp [State.addMember, Mode.inClass], rfl⟩

/-- The left side of an operator may be ended. -/
theorem Within.setOperator (within : s.Within w (depth + 1) False) (op : SetOp) :
    (s.setOperator op).Ready w (depth + 1) := by
  -- What the left side holds is held by the left side of the operator.
  obtain ⟨inner, outer, classes, _⟩ := within.classes
  have same : s.setOperator op = { s with
      mode := .classBody
      classes := ⟨inner.negated, some (op, inner.tree), []⟩ :: outer } := by
    simp [State.setOperator, classes]
  have ended : Within w (depth + 1) False
      { s with classes := ⟨inner.negated, some (op, inner.tree), []⟩ :: outer } :=
    within.withClass classes False.elim fun held => .inl ⟨op, inner.tree, rfl, held.tree⟩
  rw [same]
  exact ended.ready (by simp [Mode.inClass]) rfl False.elim

/-- The innermost class may be negated. -/
theorem Within.negateClass (within : s.Within w (depth + 1) False) :
    s.negateClass.At w ⟨false, depth + 1, .negated⟩ := by
  -- A negated class holds what it held.
  obtain ⟨inner, outer, classes, _⟩ := within.classes
  have same : s.negateClass = { s with
      mode := .classOpen .negated
      classes := { inner with negated := true } :: outer } := by
    simp [State.negateClass, classes]
  have changed : Within w (depth + 1) False
      { s with classes := { inner with negated := true } :: outer } :=
    within.withClass classes False.elim id
  rw [same]
  exact changed.at_opening .negated

end State

end NamedParams.Regex
