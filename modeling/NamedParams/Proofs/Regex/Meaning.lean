import NamedParams.Regex.Meaning

/-! Expressions whose meaning does not depend on whether anchors count for lines. -/

namespace NamedParams.Regex

/-- What an expression is made of: changes of flags, single items and the insides of classes. -/
inductive Leaf where
  | flags (change : FlagChange)
  | atom (a : Atom)
  | body (body : ClassTree)

/-- Everything that an expression is made of. -/
def Tree.leaves : Tree → List Leaf
  | .empty => []
  | .setFlags change => [.flags change]
  | .atom a => [.atom a]
  | .bracketed _ body => [.body body]
  | .repetition _ _ body => body.leaves
  | .group _ change body => .flags change :: body.leaves
  | .concat first rest => first.leaves ++ rest.leaves
  | .alternation first rest => first.leaves ++ rest.leaves

/-- A leaf that changes no flags and is no anchor that could count for lines. -/
def Leaf.IgnoresLines : Leaf → Prop
  | .flags change => change = .none
  | .atom a => a ≠ .assertion .lineStart ∧ a ≠ .assertion .lineEnd
  | .body _ => True

/-- The flags with anchors counting for lines or not. -/
def Flags.withLines (flags : Flags) (lines : Bool) : Flags := { flags with multiLine := lines }

/-- No change of flags leaves the flags as they are. -/
@[simp] theorem Flags.change_none (flags : Flags) : flags.change .none = flags := rfl

/-- A flag that is off stays off where a change does not switch it on. -/
theorem FlagChange.apply_false (change : FlagChange) {flag : Flag} (keeps : flag ∉ change.on) :
    change.apply flag false = false := by
  -- A change leaves a flag, or switches it off.
  simp [apply, keeps]

/-- What a class matches has nothing to do with lines. -/
theorem ClassTree.members_withLines (flags : Flags) (lines : Bool) (body : ClassTree) :
    body.members (flags.withLines lines) = body.members flags := by
  -- A class asks for case and Unicode only.
  induction body with
  | bracketed negated body ih =>
    simp only [members, ih]
    rfl
  | union first rest ihFirst ihRest => simp only [members, ihFirst, ihRest]
  | combine op left right ihLeft ihRight =>
    simp only [members, ihLeft, ihRight]
    rfl
  | _ => rfl

/-- What a single item matches has nothing to do with lines, unless it is one of their anchors. -/
theorem Atom.expr_withLines (flags : Flags) (lines : Bool) {a : Atom}
    (ignores : (Leaf.atom a).IgnoresLines) :
    a.expr (flags.withLines lines) = a.expr flags := by
  cases a with
  | assertion condition =>
    -- All other conditions mean the same under all flags.
    obtain ⟨notStart, notEnd⟩ := ignores
    cases condition <;> first | rfl | exact absurd rfl notStart | exact absurd rfl notEnd
  | _ => rfl

/-- Where nothing depends on lines, an expression means the same either way and keeps the flags. -/
theorem Tree.expr_withLines {tree : Tree} (ignores : ∀ leaf ∈ tree.leaves, leaf.IgnoresLines)
    (flags : Flags) :
    ∃ result : Except Fault Expr, ∀ lines,
      tree.expr (flags.withLines lines) = result.map (·, flags.withLines lines) := by
  -- The flags that a part leaves behind are those in front of it, so the next part sees the same.
  induction tree with
  | empty => exact ⟨.ok .empty, fun lines => rfl⟩
  | setFlags change =>
    have none : change = .none := ignores (.flags change) (by simp [leaves])
    exact ⟨.ok .empty, fun lines => by simp [expr, none, Except.map]⟩
  | atom a =>
    have same := fun lines => Atom.expr_withLines flags lines (ignores (.atom a) (by simp [leaves]))
    exact ⟨a.expr flags, fun lines => by simp only [expr, same]⟩
  | bracketed negated body =>
    -- Neither the members nor their negation depend on lines.
    refine ⟨do .ok (Expr.set (← flags.foldAndNegate negated (← body.members flags))),
      fun lines => ?_⟩
    simp only [expr, ClassTree.members_withLines]
    cases body.members flags with
    | error fault => rfl
    | ok set =>
      have same : (flags.withLines lines).foldAndNegate negated set =
        flags.foldAndNegate negated set := rfl
      simp only [Bind.bind, Except.bind, same]
      cases flags.foldAndNegate negated set <;> rfl
  | repetition least most body ih =>
    obtain ⟨result, same⟩ := ih fun leaf member => ignores leaf (by simpa [leaves] using member)
    refine ⟨result.map (Expr.repeated least most), fun lines => ?_⟩
    rw [expr, same]
    cases result <;> rfl
  | group captures change body ih =>
    -- The change of a group is none, and what is behind it sees the flags in front.
    have none : change = .none := ignores (.flags change) (by simp [leaves])
    obtain ⟨result, same⟩ := ih fun leaf member => ignores leaf (by simp [leaves, member])
    refine ⟨result.map fun body => if captures then .capture body else body, fun lines => ?_⟩
    rw [expr, none, Flags.change_none, same]
    cases result <;> rfl
  | concat first rest ihFirst ihRest =>
    -- Both parts see the same flags, and so do both alternatives below.
    obtain ⟨front, sameFront⟩ := ihFirst fun leaf member => ignores leaf (by simp [leaves, member])
    obtain ⟨back, sameBack⟩ := ihRest fun leaf member => ignores leaf (by simp [leaves, member])
    refine ⟨do .ok ((← front).append (← back)), fun lines => ?_⟩
    rw [expr, sameFront]
    cases front with
    | error fault => rfl
    | ok front =>
      simp only [Except.map, Bind.bind, Except.bind, sameBack]
      cases back <;> rfl
  | alternation first rest ihFirst ihRest =>
    obtain ⟨front, sameFront⟩ := ihFirst fun leaf member => ignores leaf (by simp [leaves, member])
    obtain ⟨back, sameBack⟩ := ihRest fun leaf member => ignores leaf (by simp [leaves, member])
    refine ⟨do .ok (Expr.either (← front) (← back)), fun lines => ?_⟩
    rw [expr, sameFront]
    cases front with
    | error fault => rfl
    | ok front =>
      simp only [Except.map, Bind.bind, Except.bind, sameBack]
      cases back <;> rfl

end NamedParams.Regex
