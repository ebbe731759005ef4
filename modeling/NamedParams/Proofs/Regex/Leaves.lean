import NamedParams.Proofs.Regex.Meaning
import NamedParams.Proofs.Results
import NamedParams.Regex.Reading

/-! An expression is made of what its characters add while it is read. -/

namespace NamedParams.Regex

/-- Items that follow each other are made of what each of them is made of. -/
theorem Tree.leaves_ofItems (items : List Tree) :
    (Tree.ofItems items).leaves = items.flatMap Tree.leaves := by
  -- Follow how the items are put together: a single one is no list.
  fun_induction Tree.ofItems items with
  | case1 => rfl
  | case2 item => simp
  | case3 item rest _ ih => simp [leaves, ih]

/-- Alternatives are made of what each of them is made of. -/
theorem Tree.leaves_ofAlternatives (alternatives : List Tree) :
    (Tree.ofAlternatives alternatives).leaves = alternatives.flatMap Tree.leaves := by
  -- Follow how the alternatives are put together: a single one is no list.
  fun_induction Tree.ofAlternatives alternatives with
  | case1 => rfl
  | case2 alternative => simp
  | case3 alternative rest _ ih => simp [leaves, ih]

/-- What the alternatives and items of a group are made of. -/
def Branches.leaves (b : Branches) : List Leaf :=
  b.done.flatMap Tree.leaves ++ b.items.flatMap Tree.leaves

/-- The tree of a group is made of what has been read of it. -/
theorem Branches.mem_leaves_tree {b : Branches} {leaf : Leaf} :
    leaf ∈ b.tree.leaves ↔ leaf ∈ b.leaves := by
  -- The order of what has been read does not matter here.
  simp only [tree, Tree.leaves_ofAlternatives, List.mem_flatMap, List.mem_reverse, List.mem_cons,
    exists_eq_or_imp, Tree.leaves_ofItems, leaves, List.mem_append]
  exact or_comm

/-- What the groups on a stack are made of. -/
def Stack.leaves (stack : Stack) : List Leaf :=
  stack.branches.leaves ++
    stack.groups.flatMap fun group => .flags group.change :: group.outer.leaves

/-- What an action adds. -/
def Action.leaves : Action → List Leaf
  | .atom a => [.atom a]
  | .bracketed _ body => [.body body]
  | .setFlags change => [.flags change]
  | .openGroup _ change => [.flags change]
  | _ => []

namespace Stack

variable {stack after : Stack} {leaf : Leaf}

/-- A new item adds what it is made of. -/
theorem mem_leaves_push {item : Tree} :
    leaf ∈ (stack.push item).leaves ↔ leaf ∈ stack.leaves ∨ leaf ∈ item.leaves := by
  -- The item joins those of the innermost group.
  simp only [leaves, push, Branches.leaves, List.flatMap_cons, List.mem_append, or_assoc, or_comm,
    or_left_comm]

/-- Repeating an item adds nothing. -/
theorem leaves_repeatItem {least : Nat} {most : Option Nat}
    (repeated : stack.repeatItem least most = .ok after) : after.leaves = stack.leaves := by
  -- The repetition of an item is made of what the item is made of.
  obtain ⟨⟨done, items⟩, groups⟩ := stack
  unfold repeatItem at repeated
  split at repeated <;> cases repeated
  rename_i same
  simp only at same
  subst same
  rfl

/-- An action adds to a stack what it is made of, and takes nothing away. -/
theorem mem_leaves_act {action : Action} (acted : stack.act action = .ok after) :
    leaf ∈ after.leaves ↔ leaf ∈ stack.leaves ∨ leaf ∈ action.leaves := by
  -- Only an item, a group and a change of flags add a leaf.
  cases action with
  | atom a =>
    cases acted
    exact mem_leaves_push
  | bracketed negated body =>
    cases acted
    exact mem_leaves_push
  | setFlags change =>
    cases acted
    exact mem_leaves_push
  | repetition least most => simp [leaves_repeatItem acted, Action.leaves]
  | repeatable =>
    obtain ⟨_, _, rfl⟩ := map_eq_ok.1 acted
    simp [Action.leaves]
  | alternative =>
    cases acted
    simp [leaves, Branches.leaves, Tree.leaves_ofItems, Action.leaves, or_left_comm]
  | openGroup captures change =>
    cases acted
    simp [leaves, Branches.leaves, Action.leaves, or_comm]
  | closeGroup =>
    -- What the group is made of moves from the stack into one item.
    obtain ⟨branches, groups⟩ := stack
    cases groups with
    | nil => cases acted
    | cons group outer =>
      cases acted
      rw [mem_leaves_push, Tree.leaves, List.mem_cons, Branches.mem_leaves_tree]
      simp [leaves, Action.leaves, or_assoc, or_comm, or_left_comm]

/-- Actions add to a stack what they are made of, and take nothing away. -/
theorem mem_leaves_perform {actions : List Action} (performed : stack.perform actions = .ok after) :
    leaf ∈ after.leaves ↔ leaf ∈ stack.leaves ∨ ∃ action ∈ actions, leaf ∈ action.leaves := by
  -- The newest action is listed first and performed last.
  induction actions generalizing after with
  | nil =>
    cases performed
    simp
  | cons action earlier ih =>
    obtain ⟨middle, first, last⟩ := bind_eq_ok.1 performed
    rw [mem_leaves_act last, ih first, or_assoc, or_comm (b := leaf ∈ action.leaves)]
    simp

end Stack

end NamedParams.Regex
