import NamedParams.Proofs.Pattern.Pinned
import NamedParams.Proofs.Regex.Anchored
import NamedParams.Proofs.Regex.Doomed
import NamedParams.Proofs.Regex.Pinned
import NamedParams.Proofs.Regex.Stack

/-! A text and the text with its anchors pinned, read side by side. -/

namespace NamedParams.Regex

open Anchors (Mark Scan)
open Anchors.Scan (resting Covers)

/-- What an anchor and its pinned form are read as, among items. -/
theorem exists_reads_of_mark {c : Char} {written : List Char} (mark : Mark c written) :
    StartsAnchor c ∧ ∃ (line : Atom) (letter : Char), written = ['\\', letter] ∧
      ∀ s : State, s.takeItem c = .ok (s.addItem (.atom line)) ∧
        s.takeEscape .item letter = .ok (s.addItem (.atom line.pinned)) := by
  -- There are two anchors, each with one escape that pins it.
  cases mark with
  | start => exact ⟨.inl rfl, .assertion .lineStart, 'A', rfl, fun s => ⟨rfl, rfl⟩⟩
  | finish => exact ⟨.inr (.inl rfl), .assertion .lineEnd, 'z', rfl, fun s => ⟨rfl, rfl⟩⟩

namespace Reading

/-- Two readings that stand at the same place and have read the same but for pinned anchors. -/
structure Paired (r t : Reading) : Prop where
  state : { r.state with actions := [] } = { t.state with actions := [] }
  stack : r.stack.pinned = t.stack.pinned

variable {r t r' t' : Reading} {c : Char}

/-- The same actions are performed, or refused, in both of two readings that are paired. -/
theorem Paired.perform (paired : Paired r t) (actions : List Action) :
    Agree (fun _ => False) (fun a b => a.pinned = b.pinned) (r.stack.perform actions)
      (t.stack.perform actions) := by
  -- Performing commutes with pinning, and pinned the two stacks are the same.
  refine .of_map_eq ?_
  rw [← Stack.perform_pinned, ← Stack.perform_pinned, paired.stack]

/-- Paired readings agree about every character, and stay paired behind it. -/
theorem Paired.step (paired : Paired r t) (c : Char) :
    Agree (fun _ => False) Paired (r.step c) (t.step c) := by
  -- The states take the character alike, and the stacks perform the same actions.
  rw [Reading.step, Reading.step, State.step_congr paired.state]
  cases r.state.step c with
  | error fault => exact .lost (by simp) (by simp)
  | ok state =>
    exact (paired.perform state.actions).bind_alike fun stack other _ same =>
      .alike rfl rfl ⟨rfl, same⟩

/-- Paired readings agree about the end. -/
theorem Paired.finish (paired : Paired r t) :
    Agree (fun _ => False) (fun a b => a.pinned = b.pinned) r.finish t.finish := by
  -- The states end alike, and the stacks perform the same actions.
  rw [Reading.finish, Reading.finish, State.finish_congr paired.state]
  cases r.state.finish with
  | error fault => exact .lost (by simp) (by simp)
  | ok state =>
    refine (paired.perform state.actions).bind_alike fun stack other _ same => ?_
    -- As many groups are open in both.
    obtain ⟨branches, groups⟩ := stack
    obtain ⟨branches', groups'⟩ := other
    obtain ⟨inner, outer⟩ := Stack.mk.inj same
    cases groups with
    | nil =>
      obtain rfl : groups' = [] := List.map_eq_nil_iff.1 outer.symm
      refine .alike rfl rfl ?_
      rw [← Branches.tree_pinned, ← Branches.tree_pinned, inner]
    | cons group around =>
      cases groups' with
      | nil => cases outer
      | cons group' around' => exact .lost (by simp) (by simp)

/-- Of two readings that are paired, none is doomed without the other. -/
theorem Paired.doomed (paired : Paired r t) (doomed : r.Doomed) : t.Doomed := by
  -- The state is the same, and pinning anchors keeps foreign names.
  have leaves (held : ∃ leaf ∈ r.stack.leaves, leaf.Foreign) :
      ∃ leaf ∈ t.stack.leaves, leaf.Foreign := by
    rwa [← foreign_map_pinned, ← Stack.leaves_pinned, ← paired.stack, Stack.leaves_pinned,
      foreign_map_pinned]
  rcases doomed with held | ⟨dense, coherent, foreign⟩
  · exact .inl (leaves held)
  · have dense' : State.Dense { t.state with actions := [] } := paired.state ▸ dense
    have coherent' : State.Coherent { t.state with actions := [] } := by
      rw [← paired.state]
      exact ⟨coherent.inClass, coherent.settled, coherent.suits⟩
    refine .inr ⟨dense', ⟨coherent'.inClass, coherent'.settled, coherent'.suits⟩, ?_⟩
    exact foreign.imp (fun half => paired.state ▸ half) leaves

/-- An anchor among items is read like its pinned form. -/
theorem Paired.step_mark (paired : Paired r t) {written : List Char} (mark : Mark c written)
    (takes : State.TakesAnchors r.state.step) :
    Agree (fun _ => False) Paired (r.step c) (written.foldlM Reading.step t) := by
  obtain ⟨base, ahead, dense, taken⟩ := takes
  obtain ⟨starts, line, letter, rfl, reads⟩ := exists_reads_of_mark mark
  -- Both readings do first what the characters in front have left to be done.
  have anchor : r.step c = r.stack.perform base.actions >>= fun stack =>
      .ok ⟨base.addItem (.atom line), stack.push (.atom line)⟩ := by
    have item : r.state.step c = .ok (base.addItem (.atom line)) :=
      (taken c starts).trans (reads base).1
    simp only [Reading.step, item, Bind.bind, Except.bind, State.addItem, State.note,
      Stack.perform]
    cases r.stack.perform base.actions <;> rfl
  have pinned : ['\\', letter].foldlM Reading.step t = t.stack.perform base.actions >>=
      fun stack => .ok ⟨State.addItem { base with mode := .escape .item, actions := [] }
        (.atom line.pinned), stack.push (.atom line.pinned)⟩ := by
    have backslash : t.state.step '\\' = .ok { base with mode := .escape .item } := by
      rw [State.step_congr paired.state, taken '\\' .backslash]
      rfl
    have escape : State.Dense { base with mode := .escape .item } := dense
    have item := (escape.step_escape ahead rfl letter).trans (reads _).2
    simp only [List.foldlM_cons, List.foldlM_nil, Reading.step, backslash, Bind.bind, Except.bind]
    cases t.stack.perform base.actions with
    | error fault => rfl
    | ok stack =>
      simp only [item]
      rfl
  rw [anchor, pinned]
  refine (paired.perform base.actions).bind_alike fun stack other _ same =>
    .alike rfl rfl ⟨rfl, ?_⟩
  -- Pinned once more, the anchor of the whole text stays as it is.
  show stack.pinned.push (.atom line.pinned) = other.pinned.push (.atom line.pinned.pinned)
  rw [same, line.pinned_pinned]

/-- Somewhere in a text, a flag group is read that sets a flag. -/
def Sets (r : Reading) (flag : Flag) (text : List Char) : Prop :=
  ∃ (before after : List Char) (r' : Reading) (change : FlagChange), text = before ++ after ∧
    before.foldlM Reading.step r = .ok r' ∧ .flags change ∈ r'.stack.leaves ∧ flag ∈ change.on

/-- What is set behind a character is set in the text that starts with it. -/
theorem Sets.cons {flag : Flag} {rest : List Char} (stepped : r.step c = .ok r')
    (sets : r'.Sets flag rest) : r.Sets flag (c :: rest) := by
  -- The same group of flags is read, one character further on.
  obtain ⟨before, after, last, change, rfl, read, member, on⟩ := sets
  exact ⟨c :: before, after, last, change, rfl, bind_eq_ok.2 ⟨r', stepped, read⟩, member, on⟩

/-- An expression holds every change of flags that was read in its text. -/
theorem not_sets_of_read {text : List Char} {tree : Tree} {flag : Flag}
    (read : Tree.read text = .ok tree)
    (keeps : ∀ change, .flags change ∈ tree.leaves → flag ∉ change.on) :
    ¬ initial.Sets flag text := by
  -- What is read in front of the rest of the text is still there at its end.
  rintro ⟨before, after, middle, change, rfl, front, member, on⟩
  obtain ⟨last, steps, finished, _⟩ := Tree.read_eq_ok.1 read
  obtain ⟨_, _, made⟩ := mem_leaves_finish finished
  rw [List.foldlM_append, front] at steps
  exact keeps change ((made _).2 (.inl (mem_leaves_steps member steps))) on

/-- A reading of a text beside one of the text with its anchors pinned by a scan, none of which has
met a foreign name or ignores blanks. -/
structure Beside (scan : Scan) (r t : Reading) : Prop where
  paired : Paired r t
  dense : r.state.Dense
  coherent : r.state.Coherent
  covers : Covers scan r.state.scan

variable {scan : Scan} {rest : List Char}

/-- The scan covers what is read behind a character too, or the reading is doomed. -/
theorem Beside.covers_step (beside : Beside scan r t) (blanks : ¬ r.Sets .ignoreSpace (c :: rest))
    (stepped : r.step c = .ok r') :
    r'.Doomed ∨ r'.state.Dense ∧ r'.state.Coherent ∧ Covers (scan.step c).1 r'.state.scan := by
  -- Where no foreign name is met, the state moves its scan as the reference moves.
  have read : [c].foldlM Reading.step r = .ok r' := by simpa using stepped
  obtain ⟨dense, coherent, _, moves, _⟩ :=
    step_follows beside.dense beside.coherent stepped fun _ change member on =>
      blanks ⟨[c], rest, r', change, rfl, read, member, on⟩
  rcases moves with foreign | moved
  · exact .inl (.inr ⟨dense, coherent, foreign⟩)
  · refine .inr ⟨dense, coherent, ?_⟩
    rw [moved, State.moved]
    split
    · -- Where a bracket opens nothing, the character in front of it is no backslash.
      rename_i bracket
      obtain ⟨rfl, takes⟩ := bracket
      exact beside.covers.step_open (State.unescaped_of_takesBracket takes)
    · exact beside.covers.step c

/-- An anchor outside of classes and its pinned form are agreed about, or doom both readings. -/
theorem Beside.step_mark (beside : Beside scan r t) {written : List Char} (mark : Mark c written)
    (outside : r.state.scan = resting 0) :
    Agree Doomed Paired (r.step c) (written.foldlM Reading.step t) := by
  -- The place decides: in the name of a property both come to nothing, and elsewhere both are read.
  obtain ⟨paired, dense, coherent, _⟩ := beside
  obtain ⟨starts, line, letter, rfl, _⟩ := exists_reads_of_mark mark
  by_cases names : r.state.ahead = none ∧ r.state.mode.namesProperty = true
  · -- Neither the anchor nor the backslash belongs to the name of a property.
    have doomed {d : Char} {next : Reading} (foreign : StartsAnchor d)
        (stepped : r.step d = .ok next) : next.Doomed :=
      doomed_of_namesForeign dense coherent ⟨names.1, names.2, foreign.foreign⟩ stepped
    refine .lost (fun next stepped => doomed starts stepped) fun last read => ?_
    obtain ⟨next, stepped, read⟩ := bind_eq_ok.1 read
    -- The other reading is doomed by the backslash, as this one would be.
    cases paired.step '\\' with
    | alike one other related =>
      rw [stepped] at other
      cases other
      exact (related.doomed (doomed .backslash one)).steps read
    | lost _ other => exact (other next stepped).elim
  · have unnamed (ahead : r.state.ahead = none) : r.state.mode.namesProperty = false := by
      simpa [ahead] using names
    -- Elsewhere both are taken among items, or both are refused.
    rcases coherent.step_anchors dense outside unnamed with takes | refuses
    · exact (paired.step_mark mark takes).weaken
    · obtain ⟨_, refused⟩ := refuses c starts
      obtain ⟨_, refused'⟩ := refuses '\\' .backslash
      rw [← State.step_congr paired.state] at refused'
      exact .lost (by simp [Reading.step, refused]) (by simp [Reading.step, refused'])

/-- Readings beside each other agree about what is written for a character. -/
theorem Beside.step (beside : Beside scan r t) (blanks : ¬ r.Sets .ignoreSpace (c :: rest)) :
    Agree Doomed (Beside (scan.step c).1) (r.step c) ((scan.step c).2.foldlM Reading.step t) := by
  have agree : Agree Doomed Paired (r.step c) ((scan.step c).2.foldlM Reading.step t) := by
    -- Only what pins an anchor differs from the character itself.
    rcases scan.step_written c with same | ⟨unescaped, outside, mark⟩
    · rw [same]
      simpa using (beside.paired.step c).weaken
    · exact beside.step_mark mark (beside.covers.eq_resting unescaped outside)
  cases agree with
  | lost one other => exact .lost one other
  | alike one other paired =>
    rcases beside.covers_step blanks one with doomed | ⟨dense, coherent, covers⟩
    · -- A foreign name that dooms one reading is one of the other.
      rw [one, other]
      refine .lost ?_ ?_
      · rintro _ ⟨⟩
        exact doomed
      · rintro _ ⟨⟩
        exact paired.doomed doomed
    · exact .alike one other ⟨paired, dense, coherent, covers⟩

/-- A text and its pinned form are completed to expressions that are the same but for pinned
anchors, unless they ask for a property by a foreign name. -/
theorem Beside.complete (beside : Beside scan r t) {text : List Char}
    (lines : ¬ r.Sets .multiLine text) (blanks : ¬ r.Sets .ignoreSpace text) :
    Agree Tree.Foreign Tree.Alike (r.complete text) (t.complete (scan.pin text)) := by
  -- Induct over the text: behind each character the readings are beside each other again.
  induction text generalizing scan r t with
  | nil =>
    have ended {a : Reading} : a.complete [] = a.finish := by simp [complete]
    rw [Scan.pin, ended, ended]
    cases beside.paired.finish with
    | lost one other => exact Agree.weaken (.lost one other)
    | alike one other same =>
      refine .alike one other ⟨same, fun change member on => ?_⟩
      -- The end of an expression changes no flags.
      obtain ⟨state, finished, made⟩ := mem_leaves_finish one
      rcases (made _).1 member with old | ⟨action, among, added⟩
      · exact lines ⟨[], [], r, change, rfl, rfl, old, on⟩
      · obtain ⟨_, _, adds⟩ := beside.coherent.finish finished
        obtain rfl : change = .none := adds action among _ added
        exact List.not_mem_nil on
  | cons c rest ih =>
    rw [Scan.pin, complete_append, complete_cons]
    -- A doomed reading comes to a foreign name, whatever the rest is.
    refine (beside.step blanks).bind (fun _ doomed _ => doomed.complete)
      (fun _ doomed _ => doomed.complete) fun r' t' stepped behind => ?_
    exact ih behind (fun sets => lines (sets.cons stepped)) fun sets => blanks (sets.cons stepped)

end Reading

end NamedParams.Regex
