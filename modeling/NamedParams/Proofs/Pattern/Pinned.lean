import NamedParams.Proofs.Pattern.Reference

/-! The anchors that a pinned pattern is left with. -/

namespace NamedParams.Anchors

namespace Scan

/-- The scan that pins anchors takes at least the classes to be open that are open, and takes a
closing bracket to close a class only if it does. -/
structure Covers (scan reference : Scan) : Prop where
  escaped : reference.escaped = scan.escaped
  outside : scan.position = .outside ↔ scan.depth = 0
  referenceOutside : reference.position = .outside ↔ reference.depth = 0
  depth : reference.depth < scan.depth ∨ reference.depth = scan.depth ∧
    (reference.position = scan.position ∨ reference.position = .inside)

/-- Before the first character, the scan covers the one that misses no closing bracket. -/
theorem covers_initial : Covers initial initial :=
  ⟨rfl, by simp [initial], by simp [initial], .inr ⟨rfl, .inl rfl⟩⟩

/-- What the scan covers it covers behind one more character. -/
theorem Covers.step {scan reference : Scan} (covers : Covers scan reference) (c : Char) :
    Covers (scan.step c).1 (reference.follow c) := by
  obtain ⟨escaped, depth, position⟩ := scan
  obtain ⟨referenceEscaped, referenceDepth, referencePosition⟩ := reference
  obtain ⟨rfl, outside, referenceOutside, depths⟩ := covers
  simp only at outside referenceOutside depths
  unfold Scan.step follow
  simp only
  split
  · -- Of two backslashes the scan stays in first position where the reference goes on.
    constructor <;> cases referenceEscaped <;> grind [resting]
  · split
    · -- The second character of any other pair is content for both.
      constructor <;> grind [resting]
    · -- Where both are in one position they move alike; the reference may be ahead inside.
      split <;> split <;> constructor <;> grind [resting]

/-- What the scan covers it covers behind a text. -/
theorem Covers.after {scan reference : Scan} (covers : Covers scan reference) (text : List Char) :
    Covers (scan.after text) (reference.followed text) := by
  -- Induct over the text, one character after the other.
  induction text generalizing scan reference with
  | nil => exact covers
  | cons c rest ih => exact ih (covers.step c)

/-- What the scan covers it covers behind an opening bracket that opens no class. -/
theorem Covers.step_open {scan reference : Scan} (covers : Covers scan reference)
    (unescaped : reference.escaped = false) : Covers (scan.step '[').1 reference := by
  -- The scan takes one more class to be open.
  have same : (scan.step '[').1 = ⟨false, scan.depth + 1, .opened⟩ := by
    simp [Scan.step, ← covers.escaped, unescaped]
  have depths := covers.depth
  rw [same]
  exact ⟨unescaped, by simp, covers.referenceOutside, .inl (by simp only; omega)⟩

/-- A covered scan is outside of classes if the scan is. -/
theorem Covers.eq_resting {scan reference : Scan} (covers : Covers scan reference)
    (unescaped : scan.escaped = false) (outside : scan.position = .outside) :
    reference = resting 0 := by
  -- No more classes are open for the reference than for the scan, which is none.
  obtain ⟨escaped, depth, position⟩ := reference
  obtain ⟨same, scanOutside, referenceOutside, depths⟩ := covers
  have none : depth = 0 := by
    have := scanOutside.1 outside
    simp only at depths
    omega
  subst none
  have position : position = .outside := referenceOutside.2 rfl
  simp [resting, position, show escaped = false from same.trans unescaped]

/-- What is written for a character is the character or, outside of classes, what pins it. -/
theorem step_written (scan : Scan) (c : Char) :
    (scan.step c).2 = [c] ∨
      scan.escaped = false ∧ scan.position = .outside ∧ Mark c (scan.step c).2 := by
  -- Only the two arms for anchors outside of classes write something else.
  obtain ⟨escaped, depth, position⟩ := scan
  unfold Scan.step
  simp only
  split
  · exact .inl rfl
  · split
    · exact .inl rfl
    · rename_i unescaped
      split <;> first | exact .inl rfl | exact .inr ⟨by simpa using unescaped, rfl, by constructor⟩

/-- Pinning anchors changes no class. -/
theorem Covers.followed_pin {scan reference : Scan} (covers : Covers scan reference)
    (text : List Char) : reference.followed (scan.pin text) = reference.followed text := by
  -- Induct over the text: what is written for each character leads where the character does.
  induction text generalizing scan reference with
  | nil => rfl
  | cons c rest ih =>
    have written : reference.followed (scan.step c).2 = reference.follow c := by
      rcases scan.step_written c with same | ⟨unescaped, outside, mark⟩
      · rw [same]
        rfl
      · -- An anchor and what pins it are content outside of classes.
        rw [covers.eq_resting unescaped outside]
        generalize (scan.step c).2 = mark at mark
        cases mark <;> rfl
    rw [pin, followed_append, written, ih (covers.step c), followed_cons]

/-- An anchor that is left in a pinned text was left where it stood. -/
theorem exists_unpinned {scan : Scan} {text front after : List Char} {c : Char}
    (anchor : c = '^' ∨ c = '$') (split : scan.pin text = front ++ c :: after) :
    ∃ before behind, text = before ++ c :: behind ∧ front = scan.pin before ∧
      ((scan.after before).step c).2 = [c] := by
  -- Induct over the text: the anchor is what is written for its first character, or in what
  -- follows.
  induction text generalizing scan front with
  | nil => simp [pin] at split
  | cons d rest ih =>
    rw [pin] at split
    -- An anchor in what the rest writes is one of the rest.
    have later {front' : List Char} (grown : front = (scan.step d).2 ++ front')
        (others : (scan.step d).1.pin rest = front' ++ c :: after) :
        ∃ before behind, d :: rest = before ++ c :: behind ∧ front = scan.pin before ∧
          ((scan.after before).step c).2 = [c] := by
      obtain ⟨before, behind, rfl, rfl, left⟩ := ih others
      exact ⟨d :: before, behind, rfl, grown, left⟩
    rcases scan.step_written d with same | ⟨_, _, mark⟩
    · rw [same] at split later
      cases front with
      -- The anchor is the first character, or one of the rest.
      | nil =>
        obtain ⟨rfl, _⟩ := List.cons.inj split
        exact ⟨[], rest, rfl, rfl, same⟩
      | cons first others =>
        obtain ⟨rfl, behind⟩ := List.cons.inj split
        exact later rfl behind
    · -- An anchor does not stand in what pins another one.
      have unmarked : c ∉ (scan.step d).2 := by
        generalize (scan.step d).2 = written at mark
        rcases anchor with rfl | rfl <;> cases mark <;> decide
      rcases List.append_eq_append_iff.1 split with ⟨more, grown, others⟩ | ⟨more, whole, others⟩
      · exact later grown others
      · cases more with
        | nil =>
          have grown : front = (scan.step d).2 ++ [] := by simpa using whole.symm
          exact later grown others.symm
        | cons first _ =>
          obtain ⟨rfl, _⟩ := List.cons.inj others
          exact absurd (by simp [whole]) unmarked

end Scan

/-- Where every anchor outside of classes is pinned, no anchor is left outside of classes. -/
theorem followed_ne_resting {source front after : List Char} {c : Char}
    (closed : ∀ (pieces : Pieces) (c : Char) (after : List Char),
      source = pieces.text ++ c :: after → c = '^' ∨ c = '$' → pieces.WellFormed false →
      pieces.unclosed 0 = 0)
    (anchor : c = '^' ∨ c = '$') (split : Scan.initial.pin source = front ++ c :: after) :
    Scan.initial.followed front ≠ Scan.resting 0 := by
  -- In front of such an anchor the source would end a class, and the anchor would be pinned.
  intro outside
  obtain ⟨before, behind, rfl, rfl, left⟩ := Scan.exists_unpinned anchor split
  rw [Scan.covers_initial.followed_pin] at outside
  obtain ⟨pieces, formed, rfl⟩ := exists_pieces outside
  have run := (Pieces.after_text 0 0 formed (by simp)).1
  rw [closed pieces c behind rfl anchor formed] at run
  have initial : Scan.initial = Scan.resting 0 := rfl
  rw [initial, run] at left
  rcases anchor with rfl | rfl <;> cases left

end NamedParams.Anchors
