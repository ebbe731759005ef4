import Mathlib.Algebra.Group.Nat.Even
import Mathlib.Data.List.Induction
import NamedParams.Proofs.Pattern.Pinned

/-! A pinned pattern is a copy of the declared one, apart from anchors outside of classes. -/

namespace NamedParams.Anchors

/-- The backslashes in the run of them at the end of a text. -/
def trailingBackslashes (text : List Char) : Nat := (text.reverse.takeWhile (· = '\\')).length

/-- A text that is taken apart into pieces: each class that it opens it also closes. -/
def Outside (text : List Char) : Prop :=
  ∃ pieces : Pieces, pieces.WellFormed false ∧ text = pieces.text

/-- One more backslash makes the run longer, and any other character ends it. -/
theorem trailingBackslashes_append (text : List Char) (c : Char) :
    trailingBackslashes (text ++ [c]) = if c = '\\' then trailingBackslashes text + 1 else 0 := by
  -- Read backwards, the run starts with the last character.
  rw [trailingBackslashes, List.reverse_append, List.reverse_singleton, List.singleton_append,
    List.takeWhile_cons]
  by_cases backslash : c = '\\' <;> simp [backslash, trailingBackslashes]

namespace Pieces

open Scan

/-- Directly behind the start of a class, its body is content as it is anywhere inside. -/
theorem followed_first {body : Pieces} {caret : Bool} (depth : Nat) (content : body ≠ .nil)
    (formed : body.WellFormed true) (noCaret : caret = true → body.startsWithCaret = false) :
    followed ⟨false, depth + 1, firstPosition caret⟩ body.text =
      (resting (depth + 1)).followed body.text := by
  -- Only the first character could be special there, and it is neither a caret nor closes.
  cases body with
  | nil => exact absurd rfl content
  | plain c rest =>
    obtain ⟨_, _, notClose, _⟩ := formed
    have notNegation : caret = true → c ≠ '^' := fun first => by
      simpa [startsWithCaret] using noCaret first
    rw [text, followed_cons, follow_first (notClose rfl) notNegation, followed_cons]
  | escape c rest =>
    rw [text, followed_cons, follow_first (by decide) (fun _ => by decide)]
    rfl
  | bracketed negated bracketFirst body rest =>
    rw [text, followed_cons, follow_first (by decide) (fun _ => by decide), followed_cons]

/-- Behind pieces, as many classes are open as in front of them. -/
theorem followed_text {pieces : Pieces} {inside : Bool} (depth : Nat)
    (wellFormed : pieces.WellFormed inside) (classes : inside = true ↔ 0 < depth) :
    (resting depth).followed pieces.text = resting depth := by
  -- Induct over the pieces: a class is one level deeper, and closed again at its end.
  induction pieces generalizing inside depth with
  | nil => rfl
  | plain c rest ih =>
    obtain ⟨notEscape, notOpen, notClose, others⟩ := wellFormed
    rw [text, followed_cons]
    by_cases close : c = ']'
    · -- Outside of classes a closing bracket is an ordinary character.
      have outside : depth = 0 :=
        Nat.eq_zero_of_not_pos fun inner => notClose (classes.2 inner) close
      rw [outside, follow_outside notEscape notOpen, ← outside]
      exact ih depth others classes
    · rw [follow_plain notEscape notOpen close]
      exact ih depth others classes
  | escape c rest ih =>
    rw [show (escape c rest).text = ['\\', c] ++ rest.text from rfl, followed_append,
      followed_escape]
    exact ih depth wellFormed classes
  | bracketed negated bracketFirst body rest ihBody ihRest =>
    obtain ⟨start, inner, others⟩ := wellFormed
    have bodyRun := ihBody (depth + 1) inner (by simp)
    -- The start of the class opens it, and its body leaves it open.
    have opened : (resting depth).followed ('[' :: if negated then ['^'] else []) =
        ⟨false, depth + 1, firstPosition !negated⟩ := by
      cases negated <;> simp [follow, resting, firstPosition]
    have behind : followed ⟨false, depth + 1, firstPosition !negated⟩
        ((if bracketFirst then [']'] else []) ++ body.text) = resting (depth + 1) := by
      cases bracketFirst with
      | true =>
        have first : follow ⟨false, depth + 1, firstPosition !negated⟩ ']' = resting (depth + 1) := by
          cases negated <;> rfl
        rw [if_pos rfl, List.singleton_append, followed_cons, first, bodyRun]
      | false =>
        obtain ⟨content, noCaret⟩ := start rfl
        rw [if_neg Bool.false_ne_true, List.nil_append,
          followed_first depth content inner (by simpa using noCaret), bodyRun]
    have whole : (bracketed negated bracketFirst body rest).text =
        ('[' :: if negated then ['^'] else []) ++
          (((if bracketFirst then [']'] else []) ++ body.text) ++ ']' :: rest.text) := by
      simp [text]
    rw [whole, followed_append, opened, followed_append, behind, followed_cons, follow_close]
    exact ihRest depth others classes

end Pieces

/-- A text is outside of classes exactly if none is open for the scan that misses no bracket. -/
theorem outside_iff {text : List Char} :
    Outside text ↔ Scan.initial.followed text = Scan.resting 0 := by
  -- Pieces leave no class open, and a text that leaves none open is taken apart.
  constructor
  · intro outside
    obtain ⟨pieces, formed, rfl⟩ := outside
    exact Pieces.followed_text 0 formed (by simp)
  · exact exists_pieces

instance : DecidablePred Outside := fun _ => decidable_of_iff _ outside_iff.symm

-- A closing bracket in first position closes no class.
example : Outside "[]^]".toList ∧ ¬ Outside "[]".toList := by decide

namespace Scan

/-- A character is escaped behind a backslash that is not escaped itself. -/
theorem escaped_step (scan : Scan) (c : Char) :
    (scan.step c).1.escaped = (decide (c = '\\') && !scan.escaped) := by
  -- An escaped character escapes nothing, whatever it is.
  obtain ⟨escaped, depth, position⟩ := scan
  unfold step
  by_cases backslash : c = '\\'
  · simp [backslash]
  · cases escaped with
    | true => simp [backslash]
    | false =>
      simp only [backslash, if_false, Bool.false_eq_true]
      split <;> rfl

/-- A character is escaped exactly behind an odd run of backslashes. -/
theorem escaped_after (text : List Char) :
    (initial.after text).escaped = true ↔ ¬ Even (trailingBackslashes text) := by
  -- Induct over the text from the last character on, which makes the run longer or ends it.
  induction text using List.reverseRecOn with
  | nil => simp [initial, trailingBackslashes]
  | append_singleton front c ih =>
    rw [after_append, after_cons, after_nil, escaped_step, trailingBackslashes_append]
    by_cases backslash : c = '\\'
    · simp [backslash, Nat.even_add_one, ← ih]
    · simp [backslash]

/-- What is written for a text is what is written for each of its characters, at its position. -/
theorem pin_eq_flatten (scan : Scan) (text : List Char) :
    scan.pin text =
      (List.ofFn fun i : Fin text.length => ((scan.after (text.take i)).step text[i]).2).flatten := by
  -- Induct over the text: the scan behind the first character is the one for the others.
  induction text generalizing scan with
  | nil => rfl
  | cons c rest ih => simp [pin, ih]

/-- Where the scan is outside of classes, no class is open. -/
theorem outside_of_after {text : List Char} (unescaped : (initial.after text).escaped = false)
    (outside : (initial.after text).position = .outside) : Outside text :=
  -- The scan is never outside while the one that misses no bracket is inside.
  outside_iff.2 ((covers_initial.after text).eq_resting unescaped outside)

/-- Where no bracket opens a class, the scan stays outside of classes. -/
theorem after_of_no_class {text : List Char}
    (none : ∀ before after, text = before ++ '[' :: after → ¬ Even (trailingBackslashes before)) :
    (initial.after text).position = .outside ∧ (initial.after text).depth = 0 := by
  -- Induct over the text from the last character on: nothing in front of it has led inside.
  induction text using List.reverseRecOn with
  | nil => exact ⟨rfl, rfl⟩
  | append_singleton front c ih =>
    obtain ⟨outside, depth⟩ := ih fun before after split =>
      none before (after ++ [c]) (by simp [split])
    -- An opening bracket is escaped, so the scan passes over it.
    have escaped : c = '[' → (initial.after front).escaped = true := by
      rintro rfl
      exact (escaped_after front).2 (none front [] rfl)
    rw [after_append, after_cons, after_nil]
    generalize initial.after front = scan at *
    obtain ⟨isEscaped, _, _⟩ := scan
    obtain rfl : _ = Position.outside := outside
    obtain rfl : _ = 0 := depth
    -- Nothing but an unescaped opening bracket leads inside.
    unfold step
    simp only
    split
    · exact ⟨rfl, rfl⟩
    · split
      · exact ⟨rfl, rfl⟩
      · split <;> simp_all

/-- What is written for a character is the character or, outside of classes and behind an even run of
backslashes, what pins it. -/
theorem written_after (front : List Char) (c : Char) :
    ((initial.after front).step c).2 = [c] ∨
      Mark c ((initial.after front).step c).2 ∧ Even (trailingBackslashes front) ∧
        Outside front := by
  rcases (initial.after front).step_written c with same | ⟨unescaped, outside, mark⟩
  · exact .inl same
  · have even : Even (trailingBackslashes front) := by
      -- Behind an odd run the anchor would be escaped.
      by_contra odd
      simp [(escaped_after front).2 odd] at unescaped
    exact .inr ⟨mark, even, outside_of_after unescaped outside⟩

/-- Where no bracket opens a class, an anchor is pinned exactly behind an even run of backslashes. -/
theorem written_after_of_no_class {front mark : List Char} {c : Char}
    (none : ∀ before after, front = before ++ '[' :: after → ¬ Even (trailingBackslashes before))
    (anchor : Mark c mark) :
    ((initial.after front).step c).2 = if Even (trailingBackslashes front) then mark else [c] := by
  -- The scan is outside of classes, so only the backslashes in front matter.
  obtain ⟨outside, depth⟩ := after_of_no_class none
  have escaped := escaped_after front
  generalize initial.after front = scan at *
  obtain ⟨isEscaped, _, _⟩ := scan
  obtain rfl : _ = Position.outside := outside
  obtain rfl : _ = 0 := depth
  by_cases even : Even (trailingBackslashes front)
  · obtain rfl : isEscaped = false := by simpa [even] using escaped
    rw [if_pos even]
    exact anchor.step_resting 0
  · obtain rfl : isEscaped = true := escaped.2 even
    rw [if_neg even]
    cases anchor <;> rfl

end Scan

/-- A pinned pattern is a copy of the declared one, character by character, except that some anchors
are replaced by anchors of the whole text; each of these is outside of classes behind an even run of
backslashes. Where no class is opened, all anchors behind such a run are replaced. -/
theorem pin_eq_copies (source : String) :
    ∃ written : Fin source.toList.length → List Char,
      (pin source).toList = (List.ofFn written).flatten ∧
      (∀ i, written i = [source.toList[i]] ∨
        Mark source.toList[i] (written i) ∧ Even (trailingBackslashes (source.toList.take i)) ∧
          Outside (source.toList.take i)) ∧
      ((∀ before after, source.toList = before ++ '[' :: after →
          ¬ Even (trailingBackslashes before)) →
        ∀ i mark, Mark source.toList[i] mark →
          written i = if Even (trailingBackslashes (source.toList.take i)) then mark
            else [source.toList[i]]) := by
  -- At each position stands what the scan writes behind all the characters in front.
  refine ⟨fun i => ((Scan.initial.after (source.toList.take i)).step source.toList[i]).2, ?_,
    fun i => Scan.written_after _ _, ?_⟩
  · rw [pin, String.toList_ofList, Scan.pin_eq_flatten]
  · intro none i mark anchor
    apply Scan.written_after_of_no_class _ anchor
    intro before after split
    -- A bracket in front of the position is one of the source.
    apply none before (after ++ source.toList.drop i)
    have whole := List.take_append_drop i.1 source.toList
    rw [split] at whole
    simpa using whole.symm

end NamedParams.Anchors
