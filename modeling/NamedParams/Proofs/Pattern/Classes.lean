import NamedParams.Pattern.Anchors

/-! The bracketed classes of a pattern, and the anchors behind them that are pinned. -/

namespace NamedParams.Anchors

/-- A stretch of a pattern, taken apart into escape pairs, classes and other characters. -/
inductive Pieces where
  | nil
  | plain (c : Char) (rest : Pieces)
  | escape (c : Char) (rest : Pieces)
  /-- A class, perhaps negated, perhaps with a closing bracket in first position. -/
  | bracketed (negated bracketFirst : Bool) (body rest : Pieces)
  deriving DecidableEq

namespace Pieces

/-- The text of the pieces. -/
def text : Pieces → List Char
  | .nil => []
  | .plain c rest => c :: rest.text
  | .escape c rest => '\\' :: c :: rest.text
  | .bracketed negated bracketFirst body rest =>
    '[' :: ((if negated then ['^'] else []) ++ ((if bracketFirst then [']'] else []) ++
      (body.text ++ ']' :: rest.text)))

/-- Whether the pieces start with a caret that is not escaped. -/
def startsWithCaret : Pieces → Bool
  | .plain c _ => c = '^'
  | _ => false

/-- Each text is taken apart in one way only, outside of classes or inside of one. -/
def WellFormed (inside : Bool) : Pieces → Prop
  | .nil => True
  | .plain c rest =>
    c ≠ '\\' ∧ c ≠ '[' ∧ (inside = true → c ≠ ']') ∧ rest.WellFormed inside
  | .escape _ rest => rest.WellFormed inside
  | .bracketed negated bracketFirst body rest =>
    -- A bracket in first position does not close, and a caret in first position negates.
    (bracketFirst = false → body ≠ .nil ∧ (negated = false → body.startsWithCaret = false)) ∧
      body.WellFormed true ∧ rest.WellFormed inside

/-- Whether the scan is in first position still behind the start of a class: behind escaped
backslashes, and behind one caret among them that it takes to negate. -/
def keepsFirst (caret : Bool) : Pieces → Bool
  | .nil => true
  | .plain c rest => c = '^' && caret && rest.keepsFirst false
  | .escape c rest => c = '\\' && rest.keepsFirst caret
  | .bracketed _ _ _ _ => false

/-- The classes that the scan takes to be open behind the pieces although they are closed, given
those in front: it misses a closing bracket that it takes to be in first position, and takes a
bracket outside of classes to close one. -/
def unclosed : Nat → Pieces → Nat
  | missed, .nil => missed
  | missed, .plain c rest => rest.unclosed (if c = ']' then missed - 1 else missed)
  | missed, .escape _ rest => rest.unclosed missed
  | missed, .bracketed negated bracketFirst body rest =>
    let inner := body.unclosed missed
    rest.unclosed (if !bracketFirst && body.keepsFirst (!negated) then inner + 1 else inner)

end Pieces

namespace Scan

/-- The scan at some depth where nothing is special about the next character. -/
def resting (depth : Nat) : Scan := ⟨false, depth, if depth = 0 then .outside else .inside⟩

/-- Behind nothing the scan is the same. -/
@[simp] theorem after_nil (scan : Scan) : scan.after [] = scan := rfl

/-- The scan takes one character after the other. -/
@[simp] theorem after_cons (scan : Scan) (c : Char) (text : List Char) :
    scan.after (c :: text) = (scan.step c).1.after text := rfl

/-- The scan takes one text after the other. -/
@[simp] theorem after_append (scan : Scan) (front back : List Char) :
    scan.after (front ++ back) = (scan.after front).after back :=
  List.foldl_append

/-- What is written for a text does not depend on what follows. -/
theorem pin_append (scan : Scan) (front back : List Char) :
    scan.pin (front ++ back) = scan.pin front ++ (scan.after front).pin back := by
  -- The scan behind the front is the one from which the back is written.
  induction front generalizing scan with
  | nil => rfl
  | cons c rest ih => simp [pin, ih]

/-- An opening bracket opens a class wherever it stands. -/
theorem step_open (depth : Nat) (position : Position) :
    (Scan.step ⟨false, depth, position⟩ '[').1 = ⟨false, depth + 1, .opened⟩ := by
  -- In no position an earlier arm takes a bracket.
  cases position <;> rfl

/-- A character without a special meaning is content. -/
theorem step_plain {depth : Nat} {c : Char} (notEscape : c ≠ '\\') (notOpen : c ≠ '[')
    (notClose : c ≠ ']') : ((resting depth).step c).1 = resting depth := by
  -- Inside of classes the position is that of content already, and outside nothing changes.
  unfold step resting
  by_cases outside : depth = 0 <;> simp [notEscape, outside]
  all_goals split <;> simp_all

/-- A closing bracket closes the innermost class, if there is one. -/
theorem step_close (depth : Nat) : ((resting depth).step ']').1 = resting (depth - 1) := by
  match depth with
  -- Outside of classes a closing bracket is an ordinary character.
  | 0 => rfl
  -- Behind the outermost class the scan is outside again.
  | 1 => rfl
  | depth + 2 => simp [step, resting]

/-- An escape pair is content. -/
theorem after_escape (depth : Nat) (c : Char) :
    (resting depth).after ['\\', c] = resting depth := by
  -- A second backslash is not looked at as the second character of a pair.
  by_cases same : c = '\\'
  · simp [step, resting, same]
  · by_cases outside : depth = 0 <;> simp [step, resting, same, outside, Nat.pos_iff_ne_zero]

/-- A caret may negate a class in first position only. -/
def firstPosition (caret : Bool) : Position := if caret then .opened else .negated

/-- In first position, a character without a special meaning there is content. -/
theorem step_first {depth : Nat} {caret : Bool} {c : Char} (notEscape : c ≠ '\\')
    (notOpen : c ≠ '[') (notNegation : caret = true → c ≠ '^') :
    (Scan.step ⟨false, depth + 1, firstPosition caret⟩ c).1 = resting (depth + 1) := by
  -- Behind the start of a class, and behind its caret, only carets and brackets are special.
  cases caret <;> simp [step, resting, firstPosition, notEscape]
  all_goals split <;> simp_all

/-- In first position, a pair of backslashes leaves the scan where it is. -/
theorem after_first_backslashes (depth : Nat) (caret : Bool) :
    Scan.after ⟨false, depth + 1, firstPosition caret⟩ ['\\', '\\'] =
      ⟨false, depth + 1, firstPosition caret⟩ := by
  -- Neither of the two backslashes is looked at as content, and none ends the first position.
  simp [step]

/-- In first position, any other escape pair is content. -/
theorem after_first_escape {depth : Nat} {caret : Bool} {c : Char} (other : c ≠ '\\') :
    Scan.after ⟨false, depth + 1, firstPosition caret⟩ ['\\', c] = resting (depth + 1) := by
  -- The backslash leaves the position alone, and the character behind it is content.
  simp [step, resting, other]

end Scan

namespace Pieces

open Scan

/-- The scan behind a class whose body has been scanned. -/
theorem after_bracketed {negated bracketFirst : Bool} {body rest : Pieces} {depth missed : Nat}
    (position : Position)
    (plainly : (resting (depth + 1 + missed)).after body.text =
      resting (depth + 1 + body.unclosed missed))
    (first : ∀ caret,
      Scan.after ⟨false, depth + 1 + missed, firstPosition caret⟩ (body.text ++ [']']) =
        resting (depth + if body.keepsFirst caret then body.unclosed missed + 1
          else body.unclosed missed)) :
    Scan.after ⟨false, depth + missed, position⟩
        (bracketed negated bracketFirst body rest).text =
      (resting (depth + if !bracketFirst && body.keepsFirst (!negated) then
        body.unclosed missed + 1 else body.unclosed missed)).after rest.text := by
  have opened : depth + missed + 1 = depth + 1 + missed := by omega
  -- What follows the body is cut off behind the closing bracket.
  have close : body.text ++ ']' :: rest.text = (body.text ++ [']']) ++ rest.text := by simp
  simp only [text, after_cons, step_open, opened, after_append, close]
  -- A bracket in first position is content, and the body is then scanned as it is inside.
  cases bracketFirst with
  | false =>
    have start : Scan.after ⟨false, depth + 1 + missed, .opened⟩ (if negated then ['^'] else []) =
        ⟨false, depth + 1 + missed, firstPosition (!negated)⟩ := by
      cases negated <;> rfl
    simpa [start] using congrArg (Scan.after · rest.text) (first !negated)
  | true =>
    have start : Scan.after (Scan.after ⟨false, depth + 1 + missed, .opened⟩
        (if negated then ['^'] else [])) [']'] = resting (depth + 1 + missed) := by
      rw [← opened]
      cases negated <;> rfl
    have closed : depth + 1 + body.unclosed missed - 1 = depth + body.unclosed missed := by omega
    simp [start, plainly, step_close, closed]

/-- Behind pieces the scan has missed the closing brackets that are counted; behind pieces in first
position and a closing bracket, perhaps that bracket too. -/
theorem after_text {pieces : Pieces} {inside : Bool} (depth missed : Nat)
    (wellFormed : pieces.WellFormed inside) (classes : inside = true ↔ 0 < depth) :
    (resting (depth + missed)).after pieces.text = resting (depth + pieces.unclosed missed) ∧
      ∀ outer caret, depth = outer + 1 →
        Scan.after ⟨false, depth + missed, firstPosition caret⟩ (pieces.text ++ [']']) =
          resting (outer + if pieces.keepsFirst caret then pieces.unclosed missed + 1
            else pieces.unclosed missed) := by
  -- Content ends the first position, so the run from there needs the plain run: the induction is on
  -- the pieces and proves both.
  have closing (outer n : Nat) : (resting (outer + 1 + n)).after [']'] = resting (outer + n) := by
    rw [after_cons, step_close]
    exact congrArg resting (by omega)
  induction pieces generalizing inside depth missed with
  | nil =>
    -- Directly behind the start of a class, the closing bracket is missed.
    refine ⟨rfl, ?_⟩
    rintro outer caret rfl
    cases caret <;> simp [text, step, resting, firstPosition, keepsFirst, unclosed] <;> omega
  | plain c rest ih =>
    obtain ⟨notEscape, notOpen, notClose, others⟩ := wellFormed
    refine ⟨?_, ?_⟩
    · rw [text, after_cons, unclosed]
      by_cases close : c = ']'
      · -- Outside of classes the scan takes the bracket to close a class that it has missed.
        have outside : depth = 0 :=
          Nat.eq_zero_of_not_pos fun inner => notClose (classes.2 inner) close
        subst outside close
        rw [step_close, if_pos rfl, Nat.zero_add]
        simpa using (ih 0 (missed - 1) others classes).1
      · rw [step_plain notEscape notOpen close, if_neg close]
        exact (ih _ _ others classes).1
    · rintro outer caret rfl
      have close : c ≠ ']' := notClose (classes.2 (Nat.succ_pos _))
      have swapped : outer + 1 + missed = outer + missed + 1 := by omega
      rw [text, List.cons_append, after_cons, unclosed, if_neg close, keepsFirst]
      -- Only a caret that negates keeps the first position.
      by_cases negation : caret = true ∧ c = '^'
      · obtain ⟨rfl, rfl⟩ := negation
        exact (ih _ _ others classes).2 outer false rfl
      · have kept : (c = '^' && caret && rest.keepsFirst false) = false := by
          cases caret <;> simp_all
        -- The first content ends the first position, and the rest is scanned plainly.
        rw [swapped, step_first notEscape notOpen (fun first same => negation ⟨first, same⟩),
          after_append, ← swapped, (ih _ _ others classes).1, closing, kept]
        rfl
  | escape c rest ih =>
    have pair : (escape c rest).text = ['\\', c] ++ rest.text := rfl
    refine ⟨?_, ?_⟩
    · rw [pair, after_append, after_escape, unclosed]
      exact (ih _ _ wellFormed classes).1
    · rintro outer caret rfl
      have swapped : outer + 1 + missed = outer + missed + 1 := by omega
      rw [pair, List.append_assoc, after_append, unclosed, keepsFirst, swapped]
      -- Only escaped backslashes keep the first position.
      by_cases backslash : c = '\\'
      · rw [backslash, after_first_backslashes, ← swapped,
          (ih _ _ wellFormed classes).2 outer caret rfl]
        rfl
      · rw [after_first_escape backslash, after_append, ← swapped, (ih _ _ wellFormed classes).1,
          closing]
        simp [backslash]
  | bracketed negated bracketFirst body rest ihBody ihRest =>
    obtain ⟨_, inner, others⟩ := wellFormed
    have bodyRun := fun depth => ihBody (depth + 1) missed inner (by simp)
    -- An opening bracket opens the class wherever it stands.
    have run (position : Position) :
        Scan.after ⟨false, depth + missed, position⟩
            (bracketed negated bracketFirst body rest).text =
          resting (depth + (bracketed negated bracketFirst body rest).unclosed missed) := by
      rw [after_bracketed position (bodyRun depth).1 fun caret => (bodyRun depth).2 depth caret rfl]
      exact (ihRest _ _ others classes).1
    refine ⟨run _, ?_⟩
    rintro outer caret rfl
    rw [after_append, run, closing]
    rfl

end Pieces

/-- What is written for an anchor of the whole text. -/
inductive Mark : Char → List Char → Prop where
  | start : Mark '^' textStart
  | finish : Mark '$' textEnd

/-- The anchor is what is written for it outside of classes. -/
theorem Mark.step_resting {c : Char} {mark : List Char} (anchor : Mark c mark) (depth : Nat) :
    ((Scan.resting depth).step c).2 = if depth = 0 then mark else [c] := by
  -- Inside of classes both anchors are ordinary characters.
  by_cases outside : depth = 0 <;> cases anchor <;> simp [Scan.step, Scan.resting, outside]

/-- An anchor outside of classes is pinned exactly if the scan has missed no closing bracket in
front of it, and is left as it is otherwise. -/
theorem pin_anchor {source : String} {pieces : Pieces} {c : Char} {mark after : List Char}
    (split : source.toList = pieces.text ++ c :: after) (wellFormed : pieces.WellFormed false)
    (anchor : Mark c mark) :
    Scan.initial.pin pieces.text ++ (if pieces.unclosed 0 = 0 then mark else [c]) <+:
      (pin source).toList := by
  -- Behind the pieces the scan has missed as many brackets as are counted.
  have run := (Pieces.after_text 0 0 wellFormed (by simp)).1
  simp only [Nat.zero_add] at run
  have initial : Scan.initial = Scan.resting 0 := rfl
  rw [pin, String.toList_ofList, split, Scan.pin_append, initial, run, Scan.pin,
    anchor.step_resting, ← List.append_assoc]
  exact List.prefix_append _ _

/-- Behind a class of one escaped backslash, the scan misses the end of the class. -/
theorem pin_behind_escaped_backslash :
    let pieces : Pieces := .bracketed false false (.escape '\\' .nil) .nil
    pieces.text = "[\\\\]".toList ∧ pieces.WellFormed false ∧ pieces.unclosed 0 = 1 ∧
      Scan.initial.pin pieces.text ++ (if pieces.unclosed 0 = 0 then textStart else ['^']) <+:
        (pin "[\\\\]^").toList :=
  have wellFormed : (Pieces.bracketed false false (.escape '\\' .nil) .nil).WellFormed false := by
    simp [Pieces.WellFormed, Pieces.startsWithCaret]
  have split : "[\\\\]^".toList =
      (Pieces.bracketed false false (.escape '\\' .nil) .nil).text ++ '^' :: [] := by decide
  ⟨by decide, wellFormed, by decide, pin_anchor split wellFormed .start⟩

/-- Not every anchor outside of classes is pinned. -/
theorem anchor_left_behind_class :
    ¬ ∀ (pieces : Pieces) (c : Char) (mark after : List Char), pieces.WellFormed false →
      Mark c mark →
      Scan.initial.pin pieces.text ++ mark <+: Scan.initial.pin (pieces.text ++ c :: after) := by
  -- The class of one escaped backslash stays open, and the anchor behind it is left as it is.
  intro pinned
  have here := pinned (.bracketed false false (.escape '\\' .nil) .nil) '^' textStart []
    (by simp [Pieces.WellFormed, Pieces.startsWithCaret]) .start
  exact absurd here (by decide)

end NamedParams.Anchors
