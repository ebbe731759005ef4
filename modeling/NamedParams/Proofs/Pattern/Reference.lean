import NamedParams.Proofs.Pattern.Classes

/-! A scan that misses no closing bracket, beside the one that pins anchors. -/

namespace NamedParams.Anchors

namespace Scan

/-- The scan behind one more character, if escaped backslashes are content like any other pair. -/
def follow (scan : Scan) (c : Char) : Scan :=
  if scan.escaped then resting scan.depth
  else if c = '\\' then { resting scan.depth with escaped := true }
  else
    match c, scan.position with
    | '[', _ => ⟨false, scan.depth + 1, .opened⟩
    | '^', .opened => ⟨false, scan.depth, .negated⟩
    | ']', .inside => resting (scan.depth - 1)
    | _, _ => resting scan.depth

/-- The scan behind a text, if escaped backslashes are content like any other pair. -/
def followed (scan : Scan) (text : List Char) : Scan := text.foldl follow scan

/-- Behind nothing the scan is the same. -/
@[simp] theorem followed_nil (scan : Scan) : scan.followed [] = scan := rfl

/-- The scan takes one character after the other. -/
@[simp] theorem followed_cons (scan : Scan) (c : Char) (text : List Char) :
    scan.followed (c :: text) = (scan.follow c).followed text := rfl

/-- The scan takes one text after the other. -/
@[simp] theorem followed_append (scan : Scan) (front back : List Char) :
    scan.followed (front ++ back) = (scan.followed front).followed back :=
  List.foldl_append

/-- A character that is no bracket and no backslash changes nothing but a first position. -/
theorem follow_plain {depth : Nat} {c : Char} (notEscape : c ≠ '\\') (notOpen : c ≠ '[')
    (notClose : c ≠ ']') : (resting depth).follow c = resting depth := by
  -- The position in front of it is that of content, or outside.
  unfold follow resting
  by_cases outside : depth = 0 <;> simp [notEscape, outside]
  all_goals split <;> simp_all

/-- A closing bracket closes the innermost class, if there is one. -/
theorem follow_close (depth : Nat) : (resting depth).follow ']' = resting (depth - 1) := by
  match depth with
  -- Outside of classes a closing bracket is an ordinary character.
  | 0 => rfl
  -- Behind the outermost class nothing is open.
  | 1 => rfl
  | depth + 2 => simp [follow, resting]

/-- Outside of classes, only an opening bracket and a backslash are special. -/
theorem follow_outside {c : Char} (notEscape : c ≠ '\\') (notOpen : c ≠ '[') :
    (resting 0).follow c = resting 0 := by
  -- With no class open, a closing bracket closes none.
  by_cases close : c = ']'
  · rw [close, follow_close]
  · exact follow_plain notEscape notOpen close

/-- An escape pair is content. -/
theorem followed_escape (depth : Nat) (c : Char) :
    (resting depth).followed ['\\', c] = resting depth := by
  -- The backslash escapes, and the escaped character is content.
  simp [follow, resting]

/-- In first position, only a closing bracket and a caret that negates are special. -/
theorem follow_first {depth : Nat} {caret : Bool} {c : Char} (notClose : c ≠ ']')
    (notNegation : caret = true → c ≠ '^') :
    follow ⟨false, depth + 1, firstPosition caret⟩ c = (resting (depth + 1)).follow c := by
  -- A backslash and an opening bracket mean the same in every position.
  by_cases escape : c = '\\'
  · simp [follow, resting, escape]
  · by_cases opening : c = '['
    · subst opening
      cases caret <;> rfl
    · -- Any other character is content.
      rw [follow_plain escape opening notClose]
      cases caret <;> simp [follow, firstPosition, escape]
      all_goals split <;> simp_all

end Scan

open Scan

/-- A text that ends a number of classes from the inside out, and then stands outside of them. -/
def Ends : Nat → List Char → Prop
  | 0, text => ∃ pieces : Pieces, pieces.WellFormed false ∧ text = pieces.text
  | depth + 1, text => ∃ (pieces : Pieces) (rest : List Char), pieces.WellFormed true ∧
    text = pieces.text ++ ']' :: rest ∧ Ends depth rest

/-- Content in front of a text belongs to its innermost class. -/
theorem Ends.prepend {depth : Nat} {front text : List Char} (extend : Pieces → Pieces)
    (extended : ∀ pieces, (extend pieces).text = front ++ pieces.text)
    (wellFormed : ∀ pieces : Pieces, ∀ inside, (inside = true ↔ 0 < depth) →
      pieces.WellFormed inside → (extend pieces).WellFormed inside)
    (ends : Ends depth text) : Ends depth (front ++ text) := by
  -- Outside of classes the pieces are the whole text, inside they end at a closing bracket.
  cases depth with
  | zero =>
    obtain ⟨pieces, formed, rfl⟩ := ends
    exact ⟨extend pieces, wellFormed pieces false (by simp) formed, (extended pieces).symm⟩
  | succ depth =>
    obtain ⟨pieces, rest, formed, rfl, outer⟩ := ends
    exact ⟨extend pieces, rest, wellFormed pieces true (by simp) formed, by simp [extended], outer⟩

/-- A text that goes on behind the start of a class, ends it and then the classes around it. -/
def EndsClass (depth : Nat) (negated : Bool) (text : List Char) : Prop :=
  ∃ (bracketFirst : Bool) (body : Pieces) (rest : List Char),
    (bracketFirst = false → body ≠ .nil ∧ (negated = false → body.startsWithCaret = false)) ∧
    body.WellFormed true ∧ Ends depth rest ∧
    text = (if bracketFirst then [']'] else []) ++ (body.text ++ ']' :: rest)

/-- A class in front of a text belongs to its innermost class. -/
theorem EndsClass.bracketed {depth : Nat} {negated : Bool} {text : List Char}
    (first : EndsClass depth negated text) :
    Ends depth ('[' :: ((if negated then ['^'] else []) ++ text)) := by
  -- The class is one piece in front of what its surroundings go on with.
  obtain ⟨bracketFirst, body, rest, start, formed, outer, rfl⟩ := first
  have front (pieces : Pieces) : (Pieces.bracketed negated bracketFirst body pieces).text =
      (Pieces.bracketed negated bracketFirst body .nil).text ++ pieces.text := by
    simp [Pieces.text]
  have whole := outer.prepend _ front fun pieces inside _ others => ⟨start, formed, others⟩
  simpa [Pieces.text] using whole

/-- A class that is closed in the end has a body, an end and a text that ends the classes around it,
provided that texts behind its first member end it. -/
theorem endsClass_of_followed {depth : Nat} {negated : Bool} {text : List Char}
    (notNegation : negated = false → text.head? ≠ some '^')
    (closed : Scan.followed ⟨false, depth + 1, firstPosition !negated⟩ text = resting 0)
    (ends : ∀ behind : List Char, behind.length ≤ text.length →
      (resting (depth + 1)).followed behind = resting 0 → Ends (depth + 1) behind) :
    EndsClass depth negated text := by
  -- The first character decides whether the class has a bracket in first position.
  cases text with
  -- A class that has only been opened is not closed.
  | nil => simp [resting] at closed
  | cons c behind =>
    by_cases close : c = ']'
    · -- A closing bracket in first position stands for itself.
      have start : Scan.follow ⟨false, depth + 1, firstPosition !negated⟩ c =
          resting (depth + 1) := by
        subst close
        cases negated <;> rfl
      rw [followed_cons, start] at closed
      obtain ⟨body, rest, formed, split, outer⟩ := ends behind (by simp) closed
      exact ⟨true, body, rest, by simp, formed, outer, by simp [close, split]⟩
    · -- Any other character starts the body as if it stood somewhere inside.
      have other : (!negated) = true → c ≠ '^' := by simpa using notNegation
      rw [followed_cons, follow_first close other, ← followed_cons] at closed
      obtain ⟨body, rest, formed, split, outer⟩ := ends _ (Nat.le_refl _) closed
      have text : c :: behind = body.text ++ ']' :: rest := split
      refine ⟨false, body, rest, fun _ => ⟨?_, fun first => ?_⟩, formed, outer, by simpa using text⟩
      · -- Without content the class would start with its closing bracket.
        rintro rfl
        exact close (List.cons.inj split).1
      · cases body <;> simp_all [Pieces.text, Pieces.startsWithCaret]

/-- A text behind which every class is closed ends the classes that are open in front of it. -/
theorem ends_of_followed {depth : Nat} {text : List Char}
    (closed : (resting depth).followed text = resting 0) : Ends depth text := by
  -- An escape pair and the start of a class take several characters at once.
  induction length : text.length using Nat.strongRecOn generalizing depth text with
  | ind n ih =>
    subst length
    have shorter {depth : Nat} {behind : List Char} (less : behind.length < text.length)
        (closed : (resting depth).followed behind = resting 0) : Ends depth behind :=
      ih behind.length less closed rfl
    match text with
    | [] =>
      -- Only outside of classes a text may end.
      cases depth with
      | zero => exact ⟨.nil, trivial, rfl⟩
      | succ depth => simp [resting] at closed
    | c :: rest =>
      by_cases escape : c = '\\'
      · -- The character behind a backslash belongs to it.
        cases rest with
        | nil => simp [follow, resting, escape] at closed
        | cons d behind =>
          rw [escape, show '\\' :: d :: behind = ['\\', d] ++ behind from rfl] at closed ⊢
          rw [followed_append, followed_escape] at closed
          have text (pieces : Pieces) :
              (Pieces.escape d pieces).text = ['\\', d] ++ pieces.text := rfl
          exact (shorter (by grind) closed).prepend (.escape d) text fun _ _ _ formed => formed
      · by_cases opening : c = '['
        · -- A class is opened, and what follows its start ends it.
          have opened : follow (resting depth) c = ⟨false, depth + 1, firstPosition true⟩ := by
            subst opening
            rfl
          rw [followed_cons, opened] at closed
          subst opening
          by_cases negation : rest.head? = some '^'
          · obtain ⟨behind, rfl⟩ := List.head?_eq_some_iff.1 negation
            have inside : EndsClass depth true behind :=
              endsClass_of_followed (by simp) closed fun member less => shorter (by grind)
            exact inside.bracketed
          · have inside : EndsClass depth false rest :=
              endsClass_of_followed (fun _ => negation) closed fun member less =>
                shorter (by grind)
            exact inside.bracketed
        · by_cases close : c = ']' ∧ 0 < depth
          · -- The innermost class ends here, without further content.
            obtain ⟨rfl, inner⟩ := close
            obtain ⟨outer, rfl⟩ := Nat.exists_eq_add_of_lt inner
            rw [followed_cons, follow_close] at closed
            exact ⟨.nil, rest, trivial, rfl, by simpa using shorter (by simp) closed⟩
          · -- Anything else is content, a closing bracket outside of classes too.
            have same : (resting depth).follow c = resting depth := by
              by_cases bracket : c = ']'
              · have outside : depth = 0 :=
                  Nat.eq_zero_of_not_pos fun inner => close ⟨bracket, inner⟩
                rw [outside, follow_outside escape opening]
              · exact follow_plain escape opening bracket
            rw [followed_cons, same] at closed
            have text (pieces : Pieces) : (Pieces.plain c pieces).text = [c] ++ pieces.text := rfl
            refine (shorter (by simp) closed).prepend (.plain c) text ?_
            intro _ inside classes formed
            exact ⟨escape, opening, fun here bracket => close ⟨bracket, classes.1 here⟩, formed⟩

/-- A text behind which every class is closed is taken apart into pieces. -/
theorem exists_pieces {text : List Char} (closed : Scan.initial.followed text = resting 0) :
    ∃ pieces : Pieces, pieces.WellFormed false ∧ text = pieces.text :=
  have ends : Ends 0 text := ends_of_followed closed
  ends

end NamedParams.Anchors
