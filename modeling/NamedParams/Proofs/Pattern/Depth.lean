import NamedParams.Proofs.Pattern.Pinned

/-! The scan of a pattern counts the open classes correctly, and writes at most twice as much as it
reads. -/

namespace NamedParams.Anchors

namespace Scan

/-- The scan is outside of classes exactly if it takes none to be open. -/
def Sound (scan : Scan) : Prop := scan.position = .outside ↔ scan.depth = 0

/-- Every character keeps the position and the depth together. -/
theorem Sound.step {scan : Scan} (sound : scan.Sound) (c : Char) : (scan.step c).1.Sound := by
  -- The depth grows where the position becomes one inside, and the position is outside again where
  -- the depth is zero.
  obtain ⟨escaped, depth, position⟩ := scan
  unfold Sound at *
  unfold Scan.step
  split
  · exact sound
  · split
    · grind
    · split <;> grind

/-- Before the first character no class is open. -/
theorem sound_initial : initial.Sound := iff_of_true rfl rfl

/-- Every text keeps the position and the depth together. -/
theorem Sound.after {scan : Scan} (sound : scan.Sound) (text : List Char) :
    (scan.after text).Sound := by
  -- Induct over the text, one character after the other.
  induction text generalizing scan with
  | nil => exact sound
  | cons c rest ih => exact ih (sound.step c)

/-- Where the scan is inside of a class, some class is open. -/
theorem Sound.depth_pos {scan : Scan} (sound : scan.Sound) (inside : scan.position ≠ .outside) :
    0 < scan.depth :=
  -- A scan that takes no class to be open is outside.
  Nat.pos_of_ne_zero fun none => inside (sound.2 none)

/-- A closing bracket that closes a class is counted off from the open ones. -/
theorem Sound.step_close {scan : Scan} (sound : scan.Sound) (unescaped : scan.escaped = false)
    (inside : scan.position = .inside) : (scan.step ']').1.depth + 1 = scan.depth := by
  -- There is a class to be closed, so that the subtraction takes one off.
  have opened : 0 < scan.depth := sound.depth_pos (by simp [inside])
  have closed : (scan.step ']').1.depth = scan.depth - 1 := by
    simp [Scan.step, unescaped, inside]
  omega

/-- What is written for a character takes at most twice its bytes. -/
theorem utf8ByteSize_step_le (scan : Scan) (c : Char) :
    (String.ofList (scan.step c).2).utf8ByteSize ≤ 2 * c.utf8Size := by
  rcases scan.step_written c with same | ⟨_, _, mark⟩
  · rw [same, ← String.singleton_eq_ofList, String.utf8ByteSize_singleton]
    omega
  · -- An anchor is one byte, and what pins it is two.
    generalize (scan.step c).2 = written at mark
    cases mark <;> decide

/-- What is written for a text takes at most twice its bytes. -/
theorem utf8ByteSize_pin_le (scan : Scan) (text : List Char) :
    (String.ofList (scan.pin text)).utf8ByteSize ≤ 2 * (String.ofList text).utf8ByteSize := by
  -- Induct over the text: each character has its own share.
  induction text generalizing scan with
  | nil => exact Nat.zero_le _
  | cons c rest ih =>
    have first := scan.utf8ByteSize_step_le c
    have others := ih (scan.step c).1
    rw [pin, String.ofList_append, String.utf8ByteSize_append, String.ofList_cons,
      String.utf8ByteSize_append, String.utf8ByteSize_singleton]
    omega

end Scan

/-- Behind every start of a pattern, the scan is outside of classes exactly if none is open; so
inside of one there is always a class to be closed, and closing it takes one from their number. A
pinned pattern takes at most twice the bytes of the declared one. -/
theorem classes_counted (source : String) :
    (∀ count, let scan := Scan.initial.after (source.toList.take count)
      (scan.position = .outside ↔ scan.depth = 0) ∧
        (scan.position ≠ .outside → 0 < scan.depth) ∧
        (scan.escaped = false → scan.position = .inside →
          (scan.step ']').1.depth + 1 = scan.depth)) ∧
      (pin source).utf8ByteSize ≤ 2 * source.utf8ByteSize := by
  refine ⟨fun count => ?_, ?_⟩
  · -- Every start of the pattern keeps what holds before its first character.
    have sound := Scan.sound_initial.after (source.toList.take count)
    exact ⟨sound, sound.depth_pos, sound.step_close⟩
  · have size := Scan.initial.utf8ByteSize_pin_le source.toList
    rwa [String.ofList_toList] at size

end NamedParams.Anchors
