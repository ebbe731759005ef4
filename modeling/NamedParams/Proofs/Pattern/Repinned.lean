import NamedParams.Pattern
import NamedParams.Proofs.Pattern.Depth
import NamedParams.Proofs.Results

/-! Pinning the anchors of a pinned pattern changes nothing. -/

namespace NamedParams

namespace Anchors.Scan

/-- A second scan of what is written for a character writes it again, and moves as the first did. -/
theorem Sound.rescan {scan : Scan} (sound : scan.Sound) (c : Char) :
    scan.pin (scan.step c).2 = (scan.step c).2 ∧ scan.after (scan.step c).2 = (scan.step c).1 := by
  rcases scan.step_written c with same | ⟨unescaped, outside, mark⟩
  · -- A copied character is scanned from the same state.
    rw [same, after_cons, after_nil, pin, pin, same]
    exact ⟨rfl, rfl⟩
  · -- What pins an anchor is an escape pair, which is content outside of classes.
    have initial : scan = .initial := by
      obtain ⟨escaped, depth, position⟩ := scan
      obtain rfl : escaped = false := unescaped
      obtain rfl : position = .outside := outside
      obtain rfl : depth = 0 := sound.1 rfl
      rfl
    subst initial
    cases mark <;> exact ⟨rfl, rfl⟩

/-- A second scan of what is written for a text writes it again. -/
theorem Sound.pin_pin {scan : Scan} (sound : scan.Sound) (text : List Char) :
    scan.pin (scan.pin text) = scan.pin text := by
  -- Induct over the text: both scans are in the same state behind each character.
  induction text generalizing scan with
  | nil => rfl
  | cons c rest ih =>
    obtain ⟨again, behind⟩ := sound.rescan c
    rw [pin, pin_append, again, behind, ih (sound.step c)]

end Anchors.Scan

/-- Pinning anchors once more changes nothing. -/
theorem Anchors.pin_pinned (source : String) : pin (pin source) = pin source := by
  -- Before the first character no class is open, and so the scan is sound.
  rw [pin, pin, String.toList_ofList, Scan.sound_initial.pin_pin]

namespace Pattern

/-- Pinning anchors once more changes nothing, so the pinned form of a pattern is compiled to an
equal pattern unless it is too long. -/
theorem compile_pinned (source : String) :
    Anchors.pin (Anchors.pin source) = Anchors.pin source ∧
      ∀ p, compile source = .ok p → p.pinned.utf8ByteSize ≤ 4096 →
        compile p.pinned = .ok { p with source := p.pinned } ∧
          ({ p with source := p.pinned } == p) = true := by
  refine ⟨Anchors.pin_pinned source, fun p compiled short => ?_⟩
  obtain ⟨_, expr, meaning, rfl⟩ := compile_eq_ok.1 compiled
  -- The pinned form is pinned already, so the same expression is compiled.
  have again : Regex.compile (Anchors.pin (Anchors.pin source)) patternSizeLimit = .ok expr := by
    rwa [Anchors.pin_pinned]
  exact ⟨compile_eq_ok.2 ⟨short, expr, again, by rw [Anchors.pin_pinned]⟩,
    beq_self_eq_true (Anchors.pin source)⟩

/-- The pinned form of a pattern with anchors, one of them escaped, is compiled to an equal one. -/
theorem compile_pinned_of_escape :
    ∃ p, compile "^\\\\^\\$$" = .ok p ∧ p.pinned.utf8ByteSize ≤ 4096 ∧
      compile p.pinned = .ok { p with source := p.pinned } ∧
        ({ p with source := p.pinned } == p) = true := by
  -- That it compiles is evaluated; the pinned form is short whatever it compiles to.
  have succeeds : (compile "^\\\\^\\$$").toBool = true := by decide +kernel
  obtain ⟨p, compiled⟩ := exists_eq_ok succeeds
  have short : p.pinned.utf8ByteSize ≤ 4096 := by
    obtain ⟨_, _, _, made⟩ := compile_eq_ok.1 compiled
    rw [made]
    exact (by decide : (Anchors.pin "^\\\\^\\$$").utf8ByteSize ≤ 4096)
  exact ⟨p, compiled, short, (compile_pinned _).2 p compiled short⟩

end Pattern

end NamedParams
