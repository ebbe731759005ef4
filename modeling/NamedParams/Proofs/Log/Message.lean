import NamedParams.Log.Event

/-! Messages that are too long for an event are cut between characters, as late as possible. -/

namespace NamedParams.Log

variable {text : String} {byte : Nat}

/-- The search for a boundary ends at the byte where it starts or in front of it. -/
theorem lastBoundary_le : (lastBoundary text byte).offset.byteIdx ≤ byte := by
  -- Induct along the search, which goes on from the byte in front.
  fun_induction lastBoundary text byte with
  | case1 byte boundary => exact Nat.le_refl byte
  | case2 byte noBoundary inside ih => omega

/-- The search for a boundary misses none on its way. -/
theorem le_lastBoundary (place : text.Pos) (fits : place.offset.byteIdx ≤ byte) :
    place.offset.byteIdx ≤ (lastBoundary text byte).offset.byteIdx := by
  fun_induction lastBoundary text byte with
  | case1 byte boundary => exact fits
  | case2 byte noBoundary inside ih =>
    -- The search goes on where there is no boundary, so the place is further in front.
    have other : place.offset.byteIdx ≠ byte := fun same => noBoundary (same ▸ place.isValid)
    exact ih (by omega)

/-- In a text that goes on behind a byte, the search for a boundary from there takes at most three
steps. -/
theorem le_lastBoundary_add_three (goesOn : byte < text.utf8ByteSize) :
    byte ≤ (lastBoundary text byte).offset.byteIdx + 3 := by
  have found : (lastBoundary text byte).offset.byteIdx ≤ byte := lastBoundary_le
  -- The boundary is not behind the whole text, so a character follows.
  have inside : lastBoundary text byte ≠ text.endPos := by
    intro atEnd
    rw [atEnd, String.offset_endPos, String.byteIdx_rawEndPos] at found
    omega
  -- The character behind the boundary ends at the next one, which the search would have found.
  have next : ((lastBoundary text byte).next inside).offset.byteIdx =
      (lastBoundary text byte).offset.byteIdx +
        ((lastBoundary text byte).get inside).utf8Size :=
    String.Pos.byteIdx_offset_next _ inside
  have positive := Char.utf8Size_pos ((lastBoundary text byte).get inside)
  have behind : byte < ((lastBoundary text byte).next inside).offset.byteIdx :=
    Nat.lt_of_not_le fun fits => by
      have missed := le_lastBoundary _ fits
      omega
  have size := Char.utf8Size_le_four ((lastBoundary text byte).get inside)
  omega

/-- What an event keeps of a message: all of it where it has at most 2048 bytes, and otherwise the
longest start that has no more, with dots behind it. -/
def KeptAs (message kept : String) : Prop :=
  if message.utf8ByteSize ≤ 2048 then kept = message
  else ∃ front back, message = front ++ back ∧ kept = front ++ "..." ∧
    front.utf8ByteSize ≤ 2048 ∧
    ∀ start rest, message = start ++ rest → start.utf8ByteSize ≤ 2048 →
      start.utf8ByteSize ≤ front.utf8ByteSize

/-- A message is cut at the last boundary that fits. -/
theorem keptAs_cutMessage (message : String) : KeptAs message (cutMessage message) := by
  unfold KeptAs cutMessage maxMessageBytes
  by_cases short : message.utf8ByteSize ≤ 2048
  · rw [if_pos short, if_neg (Nat.not_lt.2 short)]
  · rw [if_neg short, if_pos (Nat.not_le.1 short)]
    have splits := (lastBoundary message 2048).splits
    have size : (message.sliceTo (lastBoundary message 2048)).copy.utf8ByteSize =
        (lastBoundary message 2048).offset.byteIdx := by
      rw [splits.offset_eq_rawEndPos, String.byteIdx_rawEndPos]
    refine ⟨_, _, splits.eq_append, rfl, ?_, fun start rest split fits => ?_⟩
    · rw [size]
      exact lastBoundary_le
    · rw [size]
      -- The end of any other start that fits is a boundary too.
      have valid : start.rawEndPos.IsValid message :=
        String.Pos.Raw.isValid_iff_exists_append.2 ⟨start, rest, split, rfl⟩
      exact le_lastBoundary (message.pos start.rawEndPos valid) fits

/-- What is kept of a message has at most 2048 bytes and three dots. -/
theorem KeptAs.utf8ByteSize_le {message kept : String} (keeps : KeptAs message kept) :
    kept.utf8ByteSize ≤ 2051 := by
  unfold KeptAs at keeps
  split at keeps
  · rename_i short
    rw [keeps]
    omega
  · -- A cut message is a start of at most 2048 bytes with three dots behind it.
    obtain ⟨front, back, _, rfl, fits, _⟩ := keeps
    have dots : "...".utf8ByteSize = 3 := by decide
    rw [String.utf8ByteSize_append, dots]
    omega

namespace Event

/-- However an event is made, it keeps its message up to 2048 bytes, cut between characters, and so
never more than 2051 bytes; the search for the cut ends at most three bytes in front of the limit. -/
theorem message_cut (level : Level) (code : Code) (message : String) :
    (∀ event ∈ [make level code message, error code message, warning .plainWarning message,
        warning code message, info message, success code message, debug message],
      KeptAs message event.message ∧ event.message.utf8ByteSize ≤ 2051) ∧
    (2048 < message.utf8ByteSize →
      2045 ≤ (lastBoundary message 2048).offset.byteIdx ∧
        (lastBoundary message 2048).offset.byteIdx ≤ 2048) := by
  refine ⟨fun event made => ?_, fun long => ⟨?_, lastBoundary_le⟩⟩
  · -- Each of the constructors stores the message through the same cut.
    have stored : event.message = cutMessage message := by
      simp only [List.mem_cons, List.not_mem_nil, or_false] at made
      rcases made with rfl | rfl | rfl | rfl | rfl | rfl | rfl <;> rfl
    have keeps := keptAs_cutMessage message
    rw [stored]
    exact ⟨keeps, keeps.utf8ByteSize_le⟩
  · -- A boundary lies at most three bytes back, as no character is longer than four bytes.
    have near := le_lastBoundary_add_three long
    omega

end Event

end NamedParams.Log
