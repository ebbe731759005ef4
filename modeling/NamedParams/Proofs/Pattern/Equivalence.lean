import NamedParams.Proofs.Pattern.MultiLine
import NamedParams.Proofs.Regex.Paired

/-! Patterns and their sources: pinning anchors changes no meaning. -/

namespace NamedParams

open Regex

namespace Regex

/-- A text is compiled if it is completed to an expression that is not nested too deeply and that
means something within the limit. -/
theorem compile_eq_ok {text : String} {limit : Nat} {expr : Expr} :
    compile text limit = .ok expr ↔ ∃ tree, Reading.initial.complete text.toList = .ok tree ∧
      tree.nesting ≤ nestingLimit ∧
      ((tree.expr Flags.initial).map Prod.fst >>= Expr.limit limit) = .ok expr := by
  -- A nesting that is too deep is refused between the two stages.
  constructor
  · intro compiled
    obtain ⟨tree, read, _⟩ := bind_eq_ok.1 compiled
    obtain ⟨r, steps, finished, shallow⟩ := Tree.read_eq_ok.1 read
    rw [compile_of_read read] at compiled
    exact ⟨tree, bind_eq_ok.2 ⟨r, steps, finished⟩, shallow, compiled⟩
  · rintro ⟨tree, completed, shallow, compiled⟩
    obtain ⟨r, steps, finished⟩ := bind_eq_ok.1 completed
    rwa [compile_of_read (Tree.read_eq_ok.2 ⟨r, steps, finished, shallow⟩)]

/-- A text in which no flag lets lines count or blanks be ignored is compiled to what its pinned
form is compiled to. -/
theorem compile_pin {source : String} (lines : ¬ Reading.initial.Sets .multiLine source.toList)
    (blanks : ¬ Reading.initial.Sets .ignoreSpace source.toList) {limit : Nat} {expr : Expr} :
    compile (Anchors.pin source) limit = .ok expr ↔ compile source limit = .ok expr := by
  -- Before the first character, both readings are the same and no class is open.
  have beside : Reading.Beside Anchors.Scan.initial Reading.initial Reading.initial := by
    obtain ⟨_, dense, coherent, _⟩ := Reading.Tracks.initial source.toList
    exact ⟨⟨rfl, rfl⟩, dense, coherent, Anchors.Scan.covers_initial⟩
  have agree := beside.complete lines blanks
  rw [← show (Anchors.pin source).toList = _ from String.toList_ofList] at agree
  cases agree with
  | alike one other alike =>
    -- The trees are nested alike and mean the same.
    have meaning := alike.expr Flags.initial rfl
    simp only [compile_eq_ok, one, other, Except.ok.injEq, exists_eq_left', alike.nesting, meaning]
  | lost one other =>
    -- Nothing is compiled that asks for a property by a foreign name.
    have refused {text : String}
        (lost : ∀ tree, Reading.initial.complete text.toList = .ok tree → tree.Foreign) :
        ¬ compile text limit = .ok expr := by
      intro compiled
      obtain ⟨tree, completed, _, compiled⟩ := compile_eq_ok.1 compiled
      obtain ⟨leaf, member, foreign⟩ := lost tree completed
      obtain ⟨fault, fails⟩ := Tree.expr_foreign member foreign Flags.initial
      rw [fails] at compiled
      cases compiled
    exact iff_of_false (refused other) (refused one)

end Regex

namespace Pattern

/-- A source in which no flag lets lines count or blanks be ignored is compiled exactly if it is an
expression as it stands, and matches the same subjects then. -/
theorem compile_iff_untranslated {source : String} (short : source.utf8ByteSize ≤ 4096)
    (lines : ¬ Reading.initial.Sets .multiLine source.toList)
    (blanks : ¬ Reading.initial.Sets .ignoreSpace source.toList) :
    ((∃ p, compile source = .ok p) ↔ ∃ expr, Regex.compile source patternSizeLimit = .ok expr) ∧
      ∀ p expr, compile source = .ok p → Regex.compile source patternSizeLimit = .ok expr →
        ∀ subject, p.isMatch subject = expr.matches subject := by
  -- Both conditions on the length are the same, so only the meanings have to be compared.
  have fits : source.utf8ByteSize ≤ maxPatternLength := short
  refine ⟨⟨?_, ?_⟩, ?_⟩
  · rintro ⟨p, compiled⟩
    obtain ⟨_, expr, meaning, _⟩ := compile_eq_ok.1 compiled
    exact ⟨expr, (Regex.compile_pin lines blanks).1 meaning⟩
  · rintro ⟨expr, meaning⟩
    have pinned := (Regex.compile_pin lines blanks).2 meaning
    exact ⟨_, compile_eq_ok.2 ⟨fits, expr, pinned, rfl⟩⟩
  · intro p expr compiled meaning subject
    obtain ⟨_, own, pinned, rfl⟩ := compile_eq_ok.1 compiled
    rw [Regex.compile_pin lines blanks, meaning] at pinned
    cases pinned
    rfl

/-- A pattern with a flag of another kind is compiled to what its source means as it stands. -/
theorem compile_iff_untranslated_of_flag :
    ∃ p expr, compile "^(?s)a$" = .ok p ∧ Regex.compile "^(?s)a$" patternSizeLimit = .ok expr ∧
      ∀ subject, p.isMatch subject = expr.matches subject := by
  -- The source has one group of flags, and it sets neither of the two.
  have read : Tree.read "^(?s)a$".toList =
      .ok (.concat (.atom (.assertion .lineStart)) (.concat (.setFlags ⟨[.dotMatchesNewLine], []⟩)
        (.concat (.atom (.literal ⟨'a', false⟩)) (.atom (.assertion .lineEnd))))) := by decide
  have unset {flag : Flag} (other : flag ≠ .dotMatchesNewLine) :
      ¬ Reading.initial.Sets flag "^(?s)a$".toList :=
    Reading.not_sets_of_read read (by simpa [Tree.leaves] using other)
  have succeeds : (compile "^(?s)a$").toBool = true := by decide +kernel
  obtain ⟨p, compiled⟩ := exists_eq_ok succeeds
  obtain ⟨⟨accepted, _⟩, same⟩ :=
    compile_iff_untranslated (by decide) (unset (by decide)) (unset (by decide))
  obtain ⟨expr, meaning⟩ := accepted ⟨p, compiled⟩
  exact ⟨p, expr, compiled, meaning, same p expr compiled meaning⟩

-- Behind a flag that lets lines count, the pinned anchor still means the whole text.
example : (compile "(?m)^a").map (·.isMatch "b\na") = .ok false ∧
    (Regex.compile "(?m)^a" patternSizeLimit).map (·.matches "b\na") = .ok true := by decide +kernel

end Pattern

end NamedParams
