import NamedParams.Pattern
import NamedParams.Proofs.Pattern.Pinned
import NamedParams.Proofs.Regex.Lines
import NamedParams.Proofs.Regex.Stack

/-! Patterns behind a flag that lets anchors count for lines. -/

namespace NamedParams

open Regex

/-- The change of flags that lets anchors count for lines. -/
def Regex.FlagChange.multiLine : FlagChange := ⟨[.multiLine], []⟩

/-- The change of flags as it is written. -/
def multiLineFlag : String := "(?m)"

namespace Regex

/-- The reading behind the written flag. -/
def Reading.multiLine : Reading where
  state := { State.initial with actions := [.setFlags .multiLine] }
  stack := ⟨⟨[], [.setFlags .multiLine]⟩, []⟩

/-- Behind the written flag, an expression is read as if the flag were an item of its first
alternative, but may be nested too deeply. -/
theorem Tree.read_multiLine {text : List Char} {tree : Tree} (read : Tree.read text = .ok tree) :
    Tree.read (multiLineFlag.toList ++ text) =
      if nestingLimit < (tree.led .multiLine).nesting then .error .nestedTooDeeply
      else .ok (tree.led .multiLine) := by
  -- The flag alone puts one item at the bottom of the stack, where all later items leave it.
  obtain ⟨r, steps, finished, _⟩ := Tree.read_eq_ok.1 read
  have flag : multiLineFlag.toList.foldlM Reading.step Reading.initial =
      .ok Reading.multiLine := rfl
  have related : Reading.Led .multiLine Reading.initial Reading.multiLine := by
    have items : ∀ item ∈ ([] : List Tree), item.IsItem := by simp
    exact ⟨rfl, .first items⟩
  obtain ⟨led, ledSteps, related⟩ := related.steps steps
  have ledFinished := related.finish finished
  simp only [Tree.read, List.foldlM_append, flag, ledSteps, ledFinished, Bind.bind, Except.bind]

/-- Without anchors that could count for lines, an expression means the same behind the flag. -/
theorem Tree.expr_multiLine {tree : Tree} (ignores : ∀ leaf ∈ tree.leaves, leaf.IgnoresLines) :
    ((tree.led .multiLine).expr Flags.initial).map Prod.fst =
      (tree.expr Flags.initial).map Prod.fst := by
  -- The flags in front of the expression differ in one flag, which nothing asks for.
  obtain ⟨result, same⟩ := Tree.expr_withLines ignores Flags.initial
  have before : tree.expr Flags.initial = _ := same false
  have behind : tree.expr (Flags.initial.change .multiLine) = _ := same true
  rw [Tree.expr_led, behind, before]
  cases result <;> rfl

/-- What is compiled is what the tree of a text means. -/
theorem compile_of_read {text : String} {tree : Tree} (read : Tree.read text.toList = .ok tree)
    (limit : Nat) :
    compile text limit = (tree.expr Flags.initial).map Prod.fst >>= Expr.limit limit := by
  -- The flags that are left at the end of the text are dropped in either order.
  have first : compile text limit = (tree.expr Flags.initial >>= fun result =>
      result.1.limit limit) := by
    rw [compile, read]
    rfl
  rw [first]
  cases tree.expr Flags.initial <;> rfl

/-- What is compiled behind the flag is what is compiled without it, unless it is nested too deeply
there. -/
theorem compile_multiLine_eq {text : String} {tree : Tree} (read : Tree.read text.toList = .ok tree)
    (ignores : ∀ leaf ∈ tree.leaves, leaf.IgnoresLines) (limit : Nat) :
    compile (multiLineFlag ++ text) limit =
      if nestingLimit < (tree.led .multiLine).nesting then .error .nestedTooDeeply
      else compile text limit := by
  have behind := Tree.read_multiLine read
  rw [← String.toList_append] at behind
  -- The nesting is checked before anything is asked for its meaning.
  split
  · rename_i nested
    rw [if_pos nested] at behind
    rw [compile, behind]
    rfl
  · rename_i shallow
    rw [if_neg shallow] at behind
    rw [compile_of_read behind, compile_of_read read, Tree.expr_multiLine ignores]

end Regex

namespace Anchors

/-- The flag is left as it is in front of a pinned pattern. -/
theorem pin_multiLine (source : String) :
    pin (multiLineFlag ++ source) = multiLineFlag ++ pin source := by
  -- Nothing in the flag is special outside of classes.
  have initial : Scan.initial.after multiLineFlag.toList = Scan.initial := rfl
  have written : Scan.initial.pin multiLineFlag.toList = multiLineFlag.toList := rfl
  rw [pin, String.toList_append, Scan.pin_append, initial, written, String.ofList_append,
    String.ofList_toList, pin]

end Anchors

namespace Pattern

/-- Pinned anchors still count for the whole text behind the flag, so a pattern without flags of its
own matches the same subjects there, unless one more item nests it too deeply. -/
theorem compile_multiLine {source : String} {p : Pattern} {tree : Tree}
    (short : source.utf8ByteSize ≤ 4092) (compiled : compile source = .ok p)
    (read : Tree.read p.pinned.toList = .ok tree)
    (flagless : ∀ change, .flags change ∈ tree.leaves → change = .none)
    (closed : ∀ (pieces : Anchors.Pieces) (c : Char) (after : List Char),
      source.toList = pieces.text ++ c :: after → c = '^' ∨ c = '$' → pieces.WellFormed false →
      pieces.unclosed 0 = 0)
    (opens : OpensClasses p.pinned.toList) :
    if nestingLimit < (tree.led .multiLine).nesting then
      compile (multiLineFlag ++ source) = .error (.rejected .nestedTooDeeply)
    else ∃ led, compile (multiLineFlag ++ source) = .ok led ∧
      ∀ subject, led.isMatch subject = p.isMatch subject := by
  -- The pinned source has no anchor outside of classes, so its tree has none that counts for lines.
  obtain ⟨_, expr, meaning, rfl⟩ := compile_eq_ok.1 compiled
  simp only at read opens
  have pinned : (Anchors.pin source).toList = Anchors.Scan.initial.pin source.toList :=
    String.toList_ofList
  have inside (front : List Char) (c : Char) (after : List Char)
      (split : (Anchors.pin source).toList = front ++ c :: after) (anchor : c = '^' ∨ c = '$') :
      Anchors.Scan.initial.followed front ≠ Anchors.Scan.resting 0 :=
    Anchors.followed_ne_resting closed anchor (pinned.symm.trans split)
  have ignores : ∀ leaf ∈ tree.leaves, leaf.IgnoresLines := by
    refine (Tree.leaves_ignoreLines read flagless opens inside).resolve_left ?_
    rintro ⟨leaf, member, foreign⟩
    -- Nothing is compiled that asks for a property by a foreign name.
    obtain ⟨fault, fails⟩ := Tree.expr_foreign member foreign Flags.initial
    rw [compile_of_read read, fails] at meaning
    cases meaning
  -- The four bytes of the flag fit in front of the source.
  have length : (multiLineFlag ++ source).utf8ByteSize ≤ maxPatternLength := by
    have flag : multiLineFlag.utf8ByteSize = 4 := rfl
    rw [String.utf8ByteSize_append, flag, maxPatternLength]
    omega
  have led := compile_multiLine_eq read ignores patternSizeLimit
  rw [← Anchors.pin_multiLine] at led
  -- The depth decides; where the flag nests nothing too deeply, the same expression is compiled.
  split
  · rename_i nested
    rw [if_pos nested] at led
    rw [compile, if_neg (Nat.not_lt.2 length)]
    simp only [led]
  · rename_i shallow
    rw [if_neg shallow, meaning] at led
    exact ⟨_, compile_eq_ok.2 ⟨length, expr, led, rfl⟩, fun subject => rfl⟩

/-- In front of no anchor of the pattern below a closing bracket has been missed. -/
theorem unclosed_of_negated_class (pieces : Anchors.Pieces) (c : Char) (after : List Char)
    (split : "^[^a]$".toList = pieces.text ++ c :: after) (anchor : c = '^' ∨ c = '$')
    (formed : pieces.WellFormed false) : pieces.unclosed 0 = 0 := by
  -- What has been missed is the depth of the scan where no piece is open, and the scan can be run.
  have run := (Anchors.Pieces.after_text 0 0 formed (by simp)).1
  have chars : "^[^a]$".toList = ['^', '[', '^', 'a', ']', '$'] := by decide
  generalize pieces.unclosed 0 = missed at run ⊢
  generalize pieces.text = front at run split
  have depth : missed = ((Anchors.Scan.resting 0).after front).depth := by
    rw [run]
    simp [Anchors.Scan.resting]
  have position : ((Anchors.Scan.resting 0).after front).position =
      if missed = 0 then .outside else .inside := by
    rw [run]
    simp [Anchors.Scan.resting]
  have first {d : Char} {rest : List Char} (same : c :: after = d :: rest) : d = '^' ∨ d = '$' :=
    (List.cons.inj same).1 ▸ anchor
  simp only [chars, List.cons_eq_append_iff] at split
  -- The anchors in front of and behind the class are outside, and no pieces end inside of it.
  rcases split with ⟨rfl, _⟩ | ⟨_, rfl, ⟨rfl, same⟩ | ⟨_, rfl, ⟨rfl, _⟩ | ⟨_, rfl, ⟨rfl, same⟩ |
    ⟨_, rfl, ⟨rfl, same⟩ | ⟨_, rfl, ⟨rfl, _⟩ | ⟨_, rfl, none⟩⟩⟩⟩⟩⟩
  · exact depth
  · exact absurd (first same) (by decide)
  · simp [depth, Anchors.Scan.step, Anchors.Scan.resting] at position
  · exact absurd (first same) (by decide)
  · exact absurd (first same) (by decide)
  · exact depth
  · simp at none

/-- A pattern of two anchors and a negated class means the same behind the flag. -/
theorem compile_multiLine_of_class :
    ∃ p led, compile "^[^a]$" = .ok p ∧ compile (multiLineFlag ++ "^[^a]$") = .ok led ∧
      ∀ subject, led.isMatch subject = p.isMatch subject := by
  -- That it compiles is evaluated, and what it compiles to is left open.
  have succeeds : (compile "^[^a]$").toBool = true := by decide +kernel
  obtain ⟨p, compiled⟩ := exists_eq_ok succeeds
  have pinned : p.pinned = "\\A[^a]\\z" := by
    obtain ⟨_, expr, _, rfl⟩ := compile_eq_ok.1 compiled
    show Anchors.pin "^[^a]$" = _
    decide
  have read : Tree.read p.pinned.toList =
      .ok (.concat (.atom (.assertion .textStart))
        (.concat (.bracketed true (.literal ⟨'a', false⟩)) (.atom (.assertion .textEnd)))) := by
    rw [pinned]
    decide
  have opens : OpensClasses p.pinned.toList := by
    intro before after r split read _
    have chars : p.pinned.toList = ['\\', 'A', '[', '^', 'a', ']', '\\', 'z'] := by
      rw [pinned]
      decide
    -- The only bracket stands behind the start of the text.
    have front : before = ['\\', 'A'] := by
      rw [chars] at split
      simp [List.cons_eq_append_iff] at split
      grind
    subst front
    cases read
    rfl
  have result := compile_multiLine (by decide) compiled read (by simp [Tree.leaves])
    unclosed_of_negated_class opens
  rw [if_neg (by decide)] at result
  obtain ⟨led, ledCompiled, same⟩ := result
  exact ⟨p, led, compiled, ledCompiled, same⟩

-- Where the end of a class is missed, an anchor is left that counts for lines behind the flag.
example : (compile "[\\\\]?^a").map (·.isMatch "b\na") = .ok false ∧
    (compile "(?m)[\\\\]?^a").map (·.isMatch "b\na") = .ok true := by decide +kernel

-- So it is behind a bracket that ends a range.
example : (compile "[+-[]?^a").map (·.isMatch "b\na") = .ok false ∧
    (compile "(?m)[+-[]?^a").map (·.isMatch "b\na") = .ok true := by decide +kernel

-- And so it is behind a bracket in the name of a group.
example : (compile "(?P<b[>b)?^a").map (·.isMatch "b\na") = .ok false ∧
    (compile "(?m)(?P<b[>b)?^a").map (·.isMatch "b\na") = .ok true := by decide +kernel

/-- A letter in a number of groups inside each other. -/
def grouped : Nat → Tree
  | 0 => .atom (.literal ⟨'a', false⟩)
  | n + 1 => .group true .none (grouped n)

/-- How a letter in groups is written. -/
def groupedText (n : Nat) : List Char := List.replicate n '(' ++ 'a' :: List.replicate n ')'

/-- Groups and letters ignore lines. -/
theorem ignoresLines_of_grouped (n : Nat) : ∀ leaf ∈ (grouped n).leaves, leaf.IgnoresLines := by
  -- Induct over the number of groups, each of which adds a leaf without flags.
  induction n with
  | zero => simp [grouped, Tree.leaves, Leaf.IgnoresLines]
  | succ n ih => simpa [grouped, Tree.leaves, Leaf.IgnoresLines] using ih

/-- A text takes at most four bytes a character. -/
theorem utf8ByteSize_ofList_le (text : List Char) :
    (String.ofList text).utf8ByteSize ≤ 4 * text.length := by
  -- Induct over the text: no character takes more than four bytes.
  induction text with
  | nil => simp
  | cons c rest ih =>
    have one := c.utf8Size_le_four
    rw [String.ofList_cons, String.utf8ByteSize_append, String.utf8ByteSize_singleton,
      List.length_cons]
    omega

/-- Not every pattern can be compiled behind the flag: one more item may nest it too deeply. -/
theorem not_compile_multiLine_of_groups :
    ¬ ∀ (source : String) (p : Pattern) (tree : Tree), source.utf8ByteSize ≤ 4092 →
      compile source = .ok p → Tree.read p.pinned.toList = .ok tree →
      (∀ change, .flags change ∈ tree.leaves → change = .none) →
      ∃ led, compile (multiLineFlag ++ source) = .ok led ∧
        ∀ subject, led.isMatch subject = p.isMatch subject := by
  -- As many groups as may be inside each other leave no room for a list around them.
  intro compiles
  have short : (String.ofList (groupedText 250)).utf8ByteSize ≤ 4092 := by
    have length : (groupedText 250).length = 501 := by decide +kernel
    have bytes := utf8ByteSize_ofList_le (groupedText 250)
    omega
  have pinned :
      Anchors.pin (String.ofList (groupedText 250)) = String.ofList (groupedText 250) := by
    rw [Anchors.pin, String.toList_ofList]
    exact congrArg String.ofList (by decide +kernel)
  have read : Tree.read (String.ofList (groupedText 250)).toList = .ok (grouped 250) := by
    rw [String.toList_ofList]
    decide +kernel
  have succeeds : (((grouped 250).expr Flags.initial).map Prod.fst >>=
      Expr.limit patternSizeLimit).toBool = true := by decide +kernel
  obtain ⟨expr, meaning⟩ := exists_eq_ok succeeds
  rw [← compile_of_read read] at meaning
  have compiled : compile (String.ofList (groupedText 250)) =
      .ok ⟨String.ofList (groupedText 250), String.ofList (groupedText 250), expr⟩ := by
    refine compile_eq_ok.2 ⟨?_, expr, by rw [pinned, meaning], by rw [pinned]⟩
    rw [maxPatternLength]
    omega
  obtain ⟨led, behind, _⟩ := compiles _ _ _ short compiled read fun change member =>
    ignoresLines_of_grouped 250 _ member
  -- In front of the groups, the flag makes a list of two items.
  have deep : nestingLimit < ((grouped 250).led .multiLine).nesting := by decide +kernel
  have fails := compile_multiLine_eq read (ignoresLines_of_grouped 250) patternSizeLimit
  rw [if_pos deep] at fails
  obtain ⟨_, other, succeeds, _⟩ := compile_eq_ok.1 behind
  rw [Anchors.pin_multiLine, pinned, fails] at succeeds
  cases succeeds

end Pattern

end NamedParams
