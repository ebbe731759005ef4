import NamedParams.Proofs.Regex.Lines

/-! Readings that come to nothing, as a property has been asked for by a foreign name. -/

namespace NamedParams.Regex

/-- Something in an expression asks for a property by a foreign name. -/
def Tree.Foreign (tree : Tree) : Prop := ∃ leaf ∈ tree.leaves, leaf.Foreign

/-- Where a property has been asked for by a foreign name, no flags are read. -/
theorem State.Coherent.not_readsFlags {s : State} (coherent : s.Coherent)
    (foreign : State.Foreign { s with actions := [] }) : ¬ s.ReadsFlags := by
  -- Flags are read outside of classes, and they ask for no property.
  rintro ⟨_, reads⟩
  have closed : s.mode.inClass = false ∧ ¬ s.mode.Foreign := by
    rcases reads with mode | ⟨scan, mode⟩ <;> simp [mode, Mode.inClass, Mode.Foreign]
  have classes : s.classes = [] := by simpa [closed.1] using coherent.inClass
  rcases foreign with half | ⟨c, open_, _⟩ | ⟨_, noted, _⟩
  · exact closed.2 half
  · simp [classes] at open_
  · cases noted

namespace Reading

/-- A property has been asked for by a foreign name, and nothing that follows takes that back. -/
def Doomed (r : Reading) : Prop :=
  (∃ leaf ∈ r.stack.leaves, leaf.Foreign) ∨ r.state.Dense ∧ r.state.Coherent ∧ r.Foreign

variable {r r' : Reading} {c : Char}

/-- What a reading is doomed by is still there behind the next character. -/
theorem Doomed.step (doomed : r.Doomed) (stepped : r.step c = .ok r') : r'.Doomed := by
  -- No step takes a leaf off the stack for good.
  have kept (held : ∃ leaf ∈ r.stack.leaves, leaf.Foreign) : r'.Doomed := by
    obtain ⟨leaf, member, foreign⟩ := held
    have read : [c].foldlM Reading.step r = .ok r' := by simpa using stepped
    exact .inl ⟨leaf, mem_leaves_steps member read, foreign⟩
  rcases doomed with held | ⟨dense, coherent, half | held⟩
  · exact kept held
  · -- What is half read is read further, or is complete and stays on the stack.
    have unread := coherent.not_readsFlags half
    obtain ⟨dense', coherent', persists, _⟩ :=
      step_follows dense coherent stepped fun reads => absurd reads unread
    exact .inr ⟨dense', coherent', persists (.inl half)⟩
  · exact kept held

/-- A foreign character in the name of a property dooms a reading. -/
theorem doomed_of_namesForeign (dense : r.state.Dense) (coherent : r.state.Coherent)
    (names : r.state.NamesForeign c) (stepped : r.step c = .ok r') : r'.Doomed := by
  obtain ⟨state, taken, rest⟩ := bind_eq_ok.1 stepped
  obtain ⟨stack, performed, result⟩ := bind_eq_ok.1 rest
  cases result
  -- The name of a property is not part of the flags of a group.
  have unread : ¬ r.state.ReadsFlags := by
    rintro ⟨_, mode | ⟨scan, mode⟩⟩ <;> simp [State.NamesForeign, mode, Mode.namesProperty] at names
  obtain ⟨scan, here, _⟩ := coherent.step dense taken fun reads => absurd reads unread
  exact .inr ⟨here.dense, here.coherent, foreign_of_perform (here.foreign (.inr names)) performed⟩

/-- The expression that comes of a reading with the rest of a text. -/
def complete (r : Reading) (text : List Char) : Except Fault Tree := do
  (← text.foldlM Reading.step r).finish

/-- The next character is read before the rest of a text. -/
theorem complete_cons (r : Reading) (c : Char) (text : List Char) :
    r.complete (c :: text) = r.step c >>= fun next => next.complete text := by
  -- Both sides read the same characters in the same order.
  simp [complete]

/-- A text is read before the one behind it. -/
theorem complete_append (r : Reading) (front back : List Char) :
    r.complete (front ++ back) =
      front.foldlM Reading.step r >>= fun next => next.complete back := by
  -- Both sides read the same characters in the same order.
  simp [complete]

/-- At its end, a doomed reading has come to an expression with a foreign name. -/
theorem Doomed.finish (doomed : r.Doomed) {tree : Tree} (finished : r.finish = .ok tree) :
    tree.Foreign := by
  -- What is on the stack gets into the expression, and what is half read has to be completed.
  rcases doomed with ⟨leaf, member, foreign⟩ | ⟨_, coherent, foreign⟩
  · obtain ⟨_, _, made⟩ := mem_leaves_finish finished
    exact ⟨leaf, (made leaf).2 (.inl member), foreign⟩
  · exact foreign_of_finish coherent foreign finished

/-- A doomed reading stays so, whatever follows. -/
theorem Doomed.steps (doomed : r.Doomed) {text : List Char}
    (read : text.foldlM Reading.step r = .ok r') : r'.Doomed := by
  -- Induct over the text, as no character takes back what the reading is doomed by.
  induction text generalizing r with
  | nil =>
    cases read
    exact doomed
  | cons c rest ih =>
    obtain ⟨next, first, last⟩ := bind_eq_ok.1 read
    exact ih (doomed.step first) last

/-- Whatever comes of a doomed reading asks for a property by a foreign name. -/
theorem Doomed.complete (doomed : r.Doomed) {text : List Char} {tree : Tree}
    (completed : r.complete text = .ok tree) : tree.Foreign := by
  -- The rest of the text keeps the reading doomed up to its end.
  obtain ⟨last, read, finished⟩ := bind_eq_ok.1 completed
  exact (doomed.steps read).finish finished

end Reading

end NamedParams.Regex
