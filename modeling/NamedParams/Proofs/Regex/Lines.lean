import NamedParams.Proofs.Regex.Following

/-! Which anchors of an expression could count for lines. -/

namespace NamedParams.Regex

open Anchors (Scan)
open Anchors.Scan (resting)

/-- The last character has been read as an anchor that could count for lines. -/
def State.AnchorsLine (s : State) : Prop := ∃ action ∈ s.actions, action.AnchorsLine

/-- Behind a reading, some character of a text is read as an anchor that could count for lines. -/
def Reading.MeetsAnchor (r : Reading) (text : List Char) : Prop :=
  ∃ (front : List Char) (c : Char) (back : List Char) (met next : Reading),
    text = front ++ c :: back ∧ front.foldlM Reading.step r = .ok met ∧ met.step c = .ok next ∧
      next.state.AnchorsLine

/-- In front of an anchor that could count for lines, every opening bracket opens a class or has a
backslash in front: none belongs to the name of a group or is the second end of a range. -/
def OpensClasses (text : List Char) : Prop :=
  ∀ (before after : List Char) (r : Reading), text = before ++ '[' :: after →
    before.foldlM Reading.step Reading.initial = .ok r → r.MeetsAnchor ('[' :: after) →
    r.state.takesBracket = false

/-- An action adds an anchor that could count for lines if it adds it as an item. -/
theorem Action.anchorsLine_of_mem_leaves {action : Action} {a : Atom}
    (member : .atom a ∈ action.leaves) (counts : ¬ (Leaf.atom a).IgnoresLines) :
    action.AnchorsLine := by
  -- Atoms come from one kind of action only.
  cases action with
  | atom own =>
    cases List.mem_singleton.1 member
    exact counts
  | _ => simp [Action.leaves] at member

namespace Reading

variable {r r' : Reading} {c : Char}

/-- An anchor that could count for lines is met if the next character is read as one. -/
theorem meetsAnchor_of_step {rest : List Char} (stepped : r.step c = .ok r')
    (anchors : r'.state.AnchorsLine) : r.MeetsAnchor (c :: rest) :=
  ⟨[], c, rest, r, r', rfl, rfl, stepped, anchors⟩

/-- What is met behind the next character is met behind the one before it too. -/
theorem MeetsAnchor.cons {rest : List Char} (meets : r'.MeetsAnchor rest)
    (stepped : r.step c = .ok r') : r.MeetsAnchor (c :: rest) := by
  -- The same anchor is met, one character further on.
  obtain ⟨front, d, back, met, next, rfl, read, last, anchors⟩ := meets
  exact ⟨c :: front, d, back, met, next, rfl, by simp [stepped, read], last, anchors⟩

/-- What has been read, completely or not, asks for a property by a foreign name. -/
def Foreign (r : Reading) : Prop :=
  State.Foreign { r.state with actions := [] } ∨ ∃ leaf ∈ r.stack.leaves, leaf.Foreign

/-- What a state holds is kept when its actions have been performed. -/
theorem foreign_of_perform {state : State} {stack stack' : Stack} (foreign : state.Foreign)
    (performed : stack.perform state.actions = .ok stack') : Reading.Foreign ⟨state, stack'⟩ := by
  -- What is half read stays so, and what the actions add is on the stack.
  rcases foreign with half | open_ | ⟨action, among, leaf, made, foreign⟩
  · exact .inl (.inl half)
  · exact .inl (.inr (.inl open_))
  · have kept : leaf ∈ stack'.leaves :=
      (Stack.mem_leaves_perform performed).2 (.inr ⟨action, among, made⟩)
    exact .inr ⟨leaf, kept, foreign⟩

/-- The scan that an expression amounts to is moved by each character, unless a property is asked
for by a foreign name, and an anchor that could count for lines is added outside of classes only. -/
theorem step_follows (dense : r.state.Dense) (coherent : r.state.Coherent)
    (stepped : r.step c = .ok r')
    (keeps : r.state.ReadsFlags → ∀ change, .flags change ∈ r'.stack.leaves →
      .ignoreSpace ∉ change.on) :
    r'.state.Dense ∧ r'.state.Coherent ∧ (r.Foreign → r'.Foreign) ∧
      (r'.Foreign ∨ r'.state.scan = r.state.moved c) ∧
      ∀ leaf ∈ r'.stack.leaves, leaf ∈ r.stack.leaves ∨ (∃ change, leaf = .flags change) ∨
        leaf.IgnoresLines ∨
        (r.state.scan = resting 0 ∧ (c = '^' ∨ c = '$')) ∧ r'.state.AnchorsLine := by
  -- The state takes the character, and the stack performs what the state notes.
  obtain ⟨state, taken, rest⟩ := bind_eq_ok.1 stepped
  obtain ⟨stack, performed, result⟩ := bind_eq_ok.1 rest
  cases result
  have made {leaf : Leaf} : leaf ∈ stack.leaves ↔
      leaf ∈ r.stack.leaves ∨ ∃ action ∈ state.actions, leaf ∈ action.leaves :=
    Stack.mem_leaves_perform performed
  have keepsBlanks (reads : r.state.ReadsFlags) : state.KeepsBlanks :=
    fun action among change leaf => keeps reads change (made.2 (.inr ⟨action, among, leaf⟩))
  obtain ⟨scan, here, moved⟩ := coherent.step dense taken keepsBlanks
  refine ⟨here.dense, here.coherent, ?_, ?_, ?_⟩
  · -- What was held before is held behind the character, in the state or on the stack.
    rintro (half | ⟨leaf, old, foreign⟩)
    · exact foreign_of_perform (here.foreign (.inl half)) performed
    · exact .inr ⟨leaf, made.2 (.inl old), foreign⟩
  · refine moved.imp (fun names => ?_) fun same => here.scan.trans same
    exact foreign_of_perform (here.foreign (.inr names)) performed
  · -- A new leaf comes from one of the actions of the character.
    intro leaf member
    refine (made.1 member).imp_right fun ⟨action, among, added⟩ => ?_
    cases leaf with
    | flags change => exact .inl ⟨change, rfl⟩
    | atom a =>
      by_cases ignores : (Leaf.atom a).IgnoresLines
      · exact .inr (.inl ignores)
      · have anchors : action.AnchorsLine := Action.anchorsLine_of_mem_leaves added ignores
        exact .inr (.inr ⟨here.anchors action among anchors, action, among, anchors⟩)
    | body inside => exact .inr (.inl trivial)

/-- What a reader knows in front of the rest of a text: the scan follows classes as long as an anchor
that could count for lines is still to be met, and none has been met so far. -/
structure Tracks (before rest : List Char) (r : Reading) : Prop where
  read : before.foldlM Reading.step Reading.initial = .ok r
  dense : r.state.Dense
  coherent : r.state.Coherent
  follows : r.Foreign ∨ ¬ r.MeetsAnchor rest ∨ r.state.scan = Scan.initial.followed before
  ignores : r.Foreign ∨ ∀ leaf ∈ r.stack.leaves, leaf.IgnoresLines

/-- Nothing has been read. -/
theorem Tracks.initial (text : List Char) : Tracks [] text Reading.initial where
  read := rfl
  dense := ⟨rfl, rfl, by simp [Reading.initial, State.initial]⟩
  coherent := ⟨rfl, by simp [Reading.initial, State.initial],
    by simp [Reading.initial, State.initial]⟩
  follows := .inr (.inr rfl)
  ignores := .inr (by simp [Reading.initial, Stack.leaves, Branches.leaves])

/-- Everything that was made before the last characters is there behind them. -/
theorem mem_leaves_steps {text : List Char} {leaf : Leaf} (member : leaf ∈ r.stack.leaves)
    (read : text.foldlM Reading.step r = .ok r') : leaf ∈ r'.stack.leaves := by
  -- No action takes anything away.
  induction text generalizing r with
  | nil =>
    cases read
    exact member
  | cons c rest ih =>
    obtain ⟨middle, first, last⟩ := bind_eq_ok.1 read
    obtain ⟨state, _, rest⟩ := bind_eq_ok.1 first
    obtain ⟨stack, performed, result⟩ := bind_eq_ok.1 rest
    cases result
    exact ih ((Stack.mem_leaves_perform performed).2 (.inl member)) last

/-- The next character is tracked. -/
theorem Tracks.step {before rest : List Char} (tracks : Tracks before (c :: rest) r)
    (opens : OpensClasses (before ++ c :: rest))
    (inside : c = '^' ∨ c = '$' → Scan.initial.followed before ≠ resting 0)
    (stepped : r.step c = .ok r')
    (keeps : ∀ change, .flags change ∈ r'.stack.leaves → change = .none) :
    Tracks (before ++ [c]) rest r' := by
  -- The scan is followed until a foreign name is met or no anchor is left to be met, and both last.
  obtain ⟨read, dense, coherent, follows, ignores⟩ := tracks
  have blanks (change : FlagChange) (member : .flags change ∈ r'.stack.leaves) :
      .ignoreSpace ∉ change.on := keeps change member ▸ List.not_mem_nil
  obtain ⟨dense', coherent', persists, moves, made⟩ :=
    step_follows dense coherent stepped fun _ => blanks
  have adds (leaf : Leaf) (member : leaf ∈ r'.stack.leaves) : leaf ∈ r.stack.leaves ∨
      leaf.IgnoresLines ∨
      (r.state.scan = resting 0 ∧ (c = '^' ∨ c = '$')) ∧ r'.state.AnchorsLine := by
    -- A change of flags among them changes nothing.
    rcases made leaf member with old | ⟨change, rfl⟩ | new
    · exact .inl old
    · exact .inr (.inl (keeps change member))
    · exact .inr new
  have read' : (before ++ [c]).foldlM Reading.step Reading.initial = .ok r' := by
    simp [List.foldlM_append, read, stepped]
  refine ⟨read', dense', coherent', ?_, ?_⟩
  · -- The scan is still followed, or need not be followed any more.
    rcases follows with foreign | none | scan
    · exact .inl (persists foreign)
    · exact .inr (.inl fun meets => none (meets.cons stepped))
    · by_cases meets : r'.MeetsAnchor rest
      · refine moves.imp_right fun moved => .inr ?_
        -- In front of such an anchor, an opening bracket opens a class.
        have opening : ¬ (c = '[' ∧ r.state.takesBracket = true) := by
          rintro ⟨rfl, takes⟩
          simp [opens before rest r rfl read (meets.cons stepped)] at takes
        rw [moved, State.moved, if_neg opening, scan]
        simp
      · exact .inr (.inl meets)
  · -- An anchor that could count for lines would stand outside of classes in the text.
    rcases ignores with foreign | old
    · exact .inl (persists foreign)
    · rcases follows with foreign | none | scan
      · exact .inl (persists foreign)
      · refine .inr fun leaf member => ?_
        rcases adds leaf member with earlier | ignores | ⟨_, anchors⟩
        · exact old leaf earlier
        · exact ignores
        · exact absurd (meetsAnchor_of_step stepped anchors) none
      · refine .inr fun leaf member => ?_
        rcases adds leaf member with earlier | ignores | ⟨⟨outside, anchor⟩, _⟩
        · exact old leaf earlier
        · exact ignores
        · exact absurd (scan.symm.trans outside) (inside anchor)

/-- A whole text is tracked. -/
theorem Tracks.steps {before rest : List Char} (tracks : Tracks before rest r)
    (opens : OpensClasses (before ++ rest))
    (inside : ∀ front c after, before ++ rest = front ++ c :: after → c = '^' ∨ c = '$' →
      Scan.initial.followed front ≠ resting 0)
    (read : rest.foldlM Reading.step r = .ok r')
    (keeps : ∀ change, .flags change ∈ r'.stack.leaves → change = .none) :
    Tracks (before ++ rest) [] r' := by
  -- The flags at the end are those of every stack before it, as nothing is taken away.
  induction rest generalizing before r with
  | nil =>
    cases read
    simpa using tracks
  | cons c rest ih =>
    obtain ⟨middle, first, last⟩ := bind_eq_ok.1 read
    have next : Tracks (before ++ [c]) rest middle :=
      tracks.step opens (inside before c rest rfl) first fun change member =>
        keeps change (mem_leaves_steps member last)
    have split : before ++ c :: rest = (before ++ [c]) ++ rest := by simp
    rw [split] at opens inside ⊢
    exact ih next opens inside last

/-- An expression that ends is made of what was made before and of what its end adds. -/
theorem mem_leaves_finish {tree : Tree} (finished : r.finish = .ok tree) :
    ∃ state, r.state.finish = .ok state ∧ ∀ leaf, leaf ∈ tree.leaves ↔
      leaf ∈ r.stack.leaves ∨ ∃ action ∈ state.actions, leaf ∈ action.leaves := by
  -- With no group left open, the stack holds the branches of the whole expression.
  obtain ⟨state, ended, rest⟩ := bind_eq_ok.1 finished
  obtain ⟨stack, performed, result⟩ := bind_eq_ok.1 rest
  refine ⟨state, ended, fun leaf => ?_⟩
  rw [← Stack.mem_leaves_perform performed]
  cases groups : stack.groups with
  | cons group outer => simp [groups] at result
  | nil =>
    simp only [groups, Except.ok.injEq] at result
    simp [← result, Branches.mem_leaves_tree, Stack.leaves, groups]

/-- At the end nothing is half read, so what was read of a foreign name is in the expression. -/
theorem foreign_of_finish {tree : Tree} (coherent : r.state.Coherent) (foreign : r.Foreign)
    (finished : r.finish = .ok tree) : ∃ leaf ∈ tree.leaves, leaf.Foreign := by
  -- What is half read would keep the expression from ending.
  obtain ⟨state, ended, made⟩ := mem_leaves_finish finished
  obtain ⟨whole, closed, _⟩ := coherent.finish ended
  rcases foreign with (half | ⟨c, open_, _⟩ | ⟨_, noted, _⟩) | ⟨leaf, old, foreign⟩
  · exact absurd half whole
  · simp [closed] at open_
  · cases noted
  · exact ⟨leaf, (made leaf).2 (.inl old), foreign⟩

end Reading

/-- An expression is read if its characters are, it ends, and it is not nested too deeply. -/
theorem Tree.read_eq_ok {text : List Char} {tree : Tree} :
    Tree.read text = .ok tree ↔ ∃ r, text.foldlM Reading.step Reading.initial = .ok r ∧
      r.finish = .ok tree ∧ tree.nesting ≤ nestingLimit := by
  unfold Tree.read
  -- The nesting is checked after everything else.
  constructor
  · intro read
    obtain ⟨r, steps, read⟩ := bind_eq_ok.1 read
    obtain ⟨whole, finished, read⟩ := bind_eq_ok.1 read
    split at read <;> cases read
    exact ⟨r, steps, finished, by omega⟩
  · rintro ⟨r, steps, finished, within⟩
    refine bind_eq_ok.2 ⟨r, steps, bind_eq_ok.2 ⟨tree, finished, ?_⟩⟩
    rw [if_neg (by omega)]

/-- An expression has no anchor that could count for lines if the text has none outside of classes,
unless it means nothing at all. -/
theorem Tree.leaves_ignoreLines {text : List Char} {tree : Tree} (read : Tree.read text = .ok tree)
    (keeps : ∀ change, .flags change ∈ tree.leaves → change = .none) (opens : OpensClasses text)
    (inside : ∀ front c after, text = front ++ c :: after → c = '^' ∨ c = '$' →
      Scan.initial.followed front ≠ resting 0) :
    (∃ leaf ∈ tree.leaves, leaf.Foreign) ∨ ∀ leaf ∈ tree.leaves, leaf.IgnoresLines := by
  -- The whole text is tracked, and the end adds no anchor.
  obtain ⟨r, steps, finished, _⟩ := Tree.read_eq_ok.1 read
  obtain ⟨state, ended, made⟩ := Reading.mem_leaves_finish finished
  have tracks : Reading.Tracks text [] r :=
    (Reading.Tracks.initial text).steps opens inside steps fun change member =>
      keeps change ((made _).2 (.inl member))
  obtain ⟨_, _, last⟩ := tracks.coherent.finish ended
  refine tracks.ignores.imp
    (fun foreign => Reading.foreign_of_finish tracks.coherent foreign finished)
    fun ignores leaf member => ?_
  rcases (made leaf).1 member with old | ⟨action, among, added⟩
  · exact ignores leaf old
  · exact last action among leaf added

end NamedParams.Regex
