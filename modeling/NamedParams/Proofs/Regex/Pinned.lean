import NamedParams.Proofs.Regex.Foreign
import NamedParams.Proofs.Regex.Leaves

/-! Expressions with their line anchors pinned to the ends of the text. -/

namespace NamedParams.Regex

/-- An item with a line anchor pinned to the end of the text. -/
def Atom.pinned : Atom → Atom
  | .assertion .lineStart => .assertion .textStart
  | .assertion .lineEnd => .assertion .textEnd
  | a => a

/-- A pinned item stays as it is. -/
theorem Atom.pinned_pinned (a : Atom) : a.pinned.pinned = a.pinned := by
  -- Anchors of the whole text are not pinned further.
  cases a with
  | assertion condition => cases condition <;> rfl
  | _ => rfl

/-- An expression with its line anchors pinned to the ends of the text. -/
def Tree.pinned : Tree → Tree
  | .empty => .empty
  | .setFlags change => .setFlags change
  | .atom a => .atom a.pinned
  | .bracketed negated body => .bracketed negated body
  | .repetition least most body => .repetition least most body.pinned
  | .group captures change body => .group captures change body.pinned
  | .concat first rest => .concat first.pinned rest.pinned
  | .alternation first rest => .alternation first.pinned rest.pinned

/-- A leaf with a line anchor pinned to the end of the text. -/
def Leaf.pinned : Leaf → Leaf
  | .atom a => .atom a.pinned
  | leaf => leaf

/-- A pinned expression is made of the pinned leaves. -/
theorem Tree.leaves_pinned (tree : Tree) : tree.pinned.leaves = tree.leaves.map Leaf.pinned := by
  -- Induct over the expression: only its atoms differ.
  induction tree with
  | empty => rfl
  | setFlags change => rfl
  | atom a => rfl
  | bracketed negated body => rfl
  | repetition least most body ih => exact ih
  | group captures change body ih => simp [pinned, leaves, ih, Leaf.pinned]
  | concat first rest ihFirst ihRest => simp [pinned, leaves, ihFirst, ihRest]
  | alternation first rest ihFirst ihRest => simp [pinned, leaves, ihFirst, ihRest]

/-- Pinning keeps changes of flags and makes none. -/
theorem flags_mem_map_pinned {change : FlagChange} {leaves : List Leaf} :
    .flags change ∈ leaves.map Leaf.pinned ↔ .flags change ∈ leaves := by
  -- A leaf that changes flags is left as it is, and no other becomes one.
  have same (leaf : Leaf) : leaf.pinned = .flags change ↔ leaf = .flags change := by
    cases leaf <;> simp [Leaf.pinned]
  simp [same]

/-- Pinning keeps foreign names and makes none. -/
theorem foreign_map_pinned {leaves : List Leaf} :
    (∃ leaf ∈ leaves.map Leaf.pinned, leaf.Foreign) ↔ ∃ leaf ∈ leaves, leaf.Foreign := by
  -- An anchor asks for no property, pinned or not.
  have same (leaf : Leaf) : leaf.pinned.Foreign ↔ leaf.Foreign := by
    cases leaf with
    | atom a =>
      cases a with
      | assertion condition => cases condition <;> rfl
      | _ => rfl
    | _ => rfl
  simp [same]

/-- Pinning keeps the nesting. -/
theorem Tree.nesting_pinned (tree : Tree) : tree.pinned.nesting = tree.nesting := by
  -- Lists stay lists, on the level that they are on.
  have concat (tree : Tree) : tree.pinned.isConcat = tree.isConcat := by cases tree <;> rfl
  have alternation (tree : Tree) : tree.pinned.isAlternation = tree.isAlternation := by
    cases tree <;> rfl
  induction tree with
  | empty => rfl
  | setFlags change => rfl
  | atom a => rfl
  | bracketed negated body => rfl
  | repetition least most body ih => simp [pinned, nesting, ih]
  | group captures change body ih => simp [pinned, nesting, ih]
  | concat first rest ihFirst ihRest => simp [pinned, nesting, ihFirst, ihRest, concat]
  | alternation first rest ihFirst ihRest => simp [pinned, nesting, ihFirst, ihRest, alternation]

/-- Where lines do not count, an anchor of lines is one of the whole text. -/
theorem Atom.expr_pinned {flags : Flags} (whole : flags.multiLine = false) (a : Atom) :
    a.pinned.expr flags = a.expr flags := by
  -- Each of the two anchors of lines looks for the end of the text then.
  cases a with
  | assertion condition => cases condition <;> simp [pinned, expr, Flags.look, whole]
  | _ => rfl

/-- Lines do not count behind a change that does not let them count. -/
theorem Flags.multiLine_change {flags : Flags} (whole : flags.multiLine = false)
    {change : FlagChange} (keeps : .multiLine ∉ change.on) :
    (flags.change change).multiLine = false := by
  -- A change leaves what it does not switch on.
  rw [Flags.change, whole, change.apply_false keeps]

/-- The meaning of two parts one after the other, put together. -/
def Tree.exprInOrder (join : Expr → Expr → Expr) (flags : Flags) (first rest : Tree) :
    Except Fault (Expr × Flags) := do
  let (first, after) ← first.expr flags
  let (rest, after) ← rest.expr after
  .ok (join first rest, after)

/-- Parts that pinning changes no meaning of, and that do not let lines count, have the same meaning
together when they are pinned. -/
theorem Tree.exprInOrder_pinned (join : Expr → Expr → Expr) {first rest : Tree} {flags : Flags}
    (front : first.pinned.expr flags = first.expr flags ∧
      ∀ result, first.expr flags = .ok result → result.2.multiLine = false)
    (back : ∀ after : Flags, after.multiLine = false → rest.pinned.expr after = rest.expr after ∧
      ∀ result, rest.expr after = .ok result → result.2.multiLine = false) :
    exprInOrder join flags first.pinned rest.pinned = exprInOrder join flags first rest ∧
      ∀ result, exprInOrder join flags first rest = .ok result → result.2.multiLine = false := by
  obtain ⟨same, after⟩ := front
  unfold exprInOrder
  rw [same]
  cases means : first.expr flags with
  | error fault => exact ⟨rfl, nofun⟩
  | ok middle =>
    -- The second part starts from the flags that the first one leaves.
    obtain ⟨same, after⟩ := back middle.2 (after middle means)
    refine ⟨by simp only [Bind.bind, Except.bind, same], fun result joined => ?_⟩
    obtain ⟨_, first_means, joined⟩ := bind_eq_ok.1 joined
    cases first_means
    obtain ⟨last, rest_means, joined⟩ := bind_eq_ok.1 joined
    cases joined
    exact after last rest_means

/-- Where lines do not count and no change lets them count, pinning changes no meaning, and lines do
not count behind the expression either. -/
theorem Tree.expr_pinned {tree : Tree}
    (keeps : ∀ change, .flags change ∈ tree.leaves → .multiLine ∉ change.on) {flags : Flags}
    (whole : flags.multiLine = false) :
    tree.pinned.expr flags = tree.expr flags ∧
      ∀ result, tree.expr flags = .ok result → result.2.multiLine = false := by
  -- Induct over the expression: each part starts from flags under which lines do not count.
  induction tree generalizing flags with
  | empty => exact ⟨rfl, by rintro _ ⟨⟩; exact whole⟩
  | setFlags change =>
    have kept := keeps change (by simp [leaves])
    exact ⟨rfl, by rintro _ ⟨⟩; exact Flags.multiLine_change whole kept⟩
  | atom a =>
    refine ⟨by simp [pinned, expr, a.expr_pinned whole], fun result means => ?_⟩
    obtain ⟨_, _, rfl⟩ := map_eq_ok.1 means
    exact whole
  | bracketed negated body =>
    -- A class has no anchors, and leaves the flags as they are.
    refine ⟨rfl, fun result means => ?_⟩
    obtain ⟨_, _, means⟩ := bind_eq_ok.1 means
    obtain ⟨_, _, means⟩ := bind_eq_ok.1 means
    cases means
    exact whole
  | repetition least most body ih =>
    obtain ⟨same, after⟩ := ih keeps whole
    refine ⟨by simp only [pinned, expr, same], fun result means => ?_⟩
    obtain ⟨inner, inner_means, means⟩ := bind_eq_ok.1 means
    cases means
    exact after inner inner_means
  | group captures change body ih =>
    -- Inside the group its change is in force, and behind it the flags in front of it are.
    have kept := keeps change (by simp [leaves])
    obtain ⟨same, _⟩ := ih (fun other member => keeps other (by simp [leaves, member]))
      (Flags.multiLine_change whole kept)
    refine ⟨by simp only [pinned, expr, same], fun result means => ?_⟩
    obtain ⟨_, _, means⟩ := bind_eq_ok.1 means
    cases means
    exact whole
  | concat first rest ihFirst ihRest =>
    exact exprInOrder_pinned Expr.append
      (ihFirst (fun other member => keeps other (by simp [leaves, member])) whole)
      fun _ => ihRest fun other member => keeps other (by simp [leaves, member])
  | alternation first rest ihFirst ihRest =>
    exact exprInOrder_pinned Expr.either
      (ihFirst (fun other member => keeps other (by simp [leaves, member])) whole)
      fun _ => ihRest fun other member => keeps other (by simp [leaves, member])

/-- Expressions that are the same but for pinned anchors, and do not let lines count. -/
structure Tree.Alike (tree other : Tree) : Prop where
  pinned : tree.pinned = other.pinned
  keeps : ∀ change, .flags change ∈ tree.leaves → .multiLine ∉ change.on

/-- Expressions that are the same but for pinned anchors are nested alike. -/
theorem Tree.Alike.nesting {tree other : Tree} (alike : tree.Alike other) :
    tree.nesting = other.nesting := by
  -- Both are nested like their common pinned form.
  rw [← tree.nesting_pinned, alike.pinned, other.nesting_pinned]

/-- Expressions that are the same but for pinned anchors mean the same where lines do not count. -/
theorem Tree.Alike.expr {tree other : Tree} (alike : tree.Alike other) (flags : Flags)
    (whole : flags.multiLine = false) : tree.expr flags = other.expr flags := by
  -- Neither of the two lets lines count.
  have keeps : ∀ change, .flags change ∈ other.leaves → .multiLine ∉ change.on := by
    intro change member
    rw [← flags_mem_map_pinned, ← Tree.leaves_pinned, ← alike.pinned, Tree.leaves_pinned,
      flags_mem_map_pinned] at member
    exact alike.keeps change member
  rw [← (Tree.expr_pinned alike.keeps whole).1, alike.pinned, (Tree.expr_pinned keeps whole).1]

/-- Pinned items follow each other as the items do. -/
theorem Tree.ofItems_pinned (items : List Tree) :
    Tree.ofItems (items.map Tree.pinned) = (Tree.ofItems items).pinned := by
  -- Follow how the items are put together.
  fun_induction Tree.ofItems items with
  | case1 => rfl
  | case2 item => rfl
  | case3 item rest some_rest ih =>
    cases rest with
    | nil => exact absurd rfl some_rest
    | cons next others => simpa [Tree.ofItems, pinned] using ih

/-- Pinned alternatives are alternatives as before. -/
theorem Tree.ofAlternatives_pinned (alternatives : List Tree) :
    Tree.ofAlternatives (alternatives.map Tree.pinned) =
      (Tree.ofAlternatives alternatives).pinned := by
  -- Follow how the alternatives are put together.
  fun_induction Tree.ofAlternatives alternatives with
  | case1 => rfl
  | case2 alternative => rfl
  | case3 alternative rest some_rest ih =>
    cases rest with
    | nil => exact absurd rfl some_rest
    | cons next others => simpa [Tree.ofAlternatives, pinned] using ih

/-- The alternatives and items of a group with their line anchors pinned. -/
def Branches.pinned (b : Branches) : Branches := ⟨b.done.map Tree.pinned, b.items.map Tree.pinned⟩

/-- An open group with its line anchors pinned. -/
def OpenGroup.pinned (group : OpenGroup) : OpenGroup :=
  ⟨group.outer.pinned, group.captures, group.change⟩

/-- What has been read, with its line anchors pinned. -/
def Stack.pinned (stack : Stack) : Stack :=
  ⟨stack.branches.pinned, stack.groups.map OpenGroup.pinned⟩

/-- An action that adds a pinned anchor in place of a line anchor. -/
def Action.pinned : Action → Action
  | .atom a => .atom a.pinned
  | action => action

/-- The tree of a pinned group is the pinned tree. -/
theorem Branches.tree_pinned (b : Branches) : b.pinned.tree = b.tree.pinned := by
  -- Both orders are turned around alike.
  simp only [tree, pinned, ← Tree.ofAlternatives_pinned, List.map_reverse, List.map_cons,
    ← Tree.ofItems_pinned]

namespace Stack

/-- A pinned stack is made of the pinned leaves. -/
theorem leaves_pinned (stack : Stack) : stack.pinned.leaves = stack.leaves.map Leaf.pinned := by
  -- The leaves of a group are those of its alternatives and items.
  have branches (b : Branches) : b.pinned.leaves = b.leaves.map Leaf.pinned := by
    simp [Branches.leaves, Branches.pinned, List.flatMap_map, Tree.leaves_pinned, List.map_flatMap]
  simp [leaves, pinned, branches, OpenGroup.pinned, List.flatMap_map, List.map_flatMap, Leaf.pinned]

/-- The same items can be repeated when they are pinned. -/
theorem repeatItem_pinned (stack : Stack) (least : Nat) (most : Option Nat) :
    stack.pinned.repeatItem least most = (stack.repeatItem least most).map Stack.pinned := by
  -- Pinning turns no item into one that cannot be repeated.
  obtain ⟨⟨done, items⟩, groups⟩ := stack
  cases items with
  | nil => rfl
  | cons item rest => cases item <;> rfl

/-- An action does with a pinned stack what it does with the stack. -/
theorem act_pinned (stack : Stack) (action : Action) :
    stack.pinned.act action.pinned = (stack.act action).map Stack.pinned := by
  -- Pinning keeps what decides whether an action succeeds.
  cases action with
  | atom a => rfl
  | bracketed negated body => rfl
  | setFlags change => rfl
  | repetition least most => exact stack.repeatItem_pinned least most
  | repeatable =>
    simp only [Action.pinned, act, repeatItem_pinned]
    cases stack.repeatItem 0 none <;> rfl
  | alternative =>
    simp [Action.pinned, act, pinned, Branches.pinned, ← Tree.ofItems_pinned, Except.map]
  | openGroup captures change => rfl
  | closeGroup =>
    -- The group becomes an item, which is pinned as a whole.
    obtain ⟨branches, groups⟩ := stack
    cases groups with
    | nil => rfl
    | cons group outer =>
      have tree := branches.tree_pinned
      simp only [Action.pinned, act, pinned, List.map_cons, OpenGroup.pinned, tree]
      rfl

/-- Actions do with a pinned stack what they do with the stack. -/
theorem perform_pinned (stack : Stack) (actions : List Action) :
    stack.pinned.perform (actions.map Action.pinned) =
      (stack.perform actions).map Stack.pinned := by
  -- Induct over the actions, the newest of which is performed last.
  induction actions with
  | nil => rfl
  | cons action earlier ih =>
    rw [List.map_cons, perform, perform, ih]
    cases stack.perform earlier with
    | error fault => rfl
    | ok middle => exact middle.act_pinned action

end Stack

end NamedParams.Regex
