import NamedParams.Proofs.Regex.Meaning
import NamedParams.Proofs.Results
import NamedParams.Regex.Reading

/-! What the items of an expression become when a change of flags stands in front of them. -/

namespace NamedParams.Regex

/-- A tree that can stand among the items of an alternative. -/
def Tree.IsItem : Tree → Prop
  | .empty | .concat _ _ | .alternation _ _ => False
  | _ => True

/-- An alternative with a change of flags in front of its items. -/
def Tree.ledItems (change : FlagChange) : Tree → Tree
  | .empty => .setFlags change
  | items => .concat (.setFlags change) items

/-- An expression with a change of flags in front of its first alternative. -/
def Tree.led (change : FlagChange) : Tree → Tree
  | .alternation first rest => .alternation (first.ledItems change) rest
  | items => items.ledItems change

/-- In front of items, a change of flags becomes one more item. -/
theorem Tree.ofItems_led (change : FlagChange) {items : List Tree}
    (proper : ∀ item ∈ items, item.IsItem) :
    Tree.ofItems (.setFlags change :: items) = (Tree.ofItems items).ledItems change := by
  -- A single item must not be taken for a list of items.
  match items with
  | [] => rfl
  | [item] =>
    have isItem := proper item (by simp)
    cases item <;> first | rfl | exact isItem.elim
  | _ :: _ :: _ => rfl

/-- Items that follow each other are no alternatives. -/
theorem Tree.led_ofItems (change : FlagChange) {items : List Tree}
    (proper : ∀ item ∈ items, item.IsItem) :
    (Tree.ofItems items).led change = (Tree.ofItems items).ledItems change := by
  -- A single item is no list of alternatives, and several items are a list of items.
  match items with
  | [] => rfl
  | [item] =>
    have isItem := proper item (by simp)
    cases item <;> first | rfl | exact isItem.elim
  | _ :: _ :: _ => rfl

/-- In front of alternatives, a change of flags becomes one more item of the first one. -/
theorem Tree.ofAlternatives_led (change : FlagChange) {first : Tree} {rest : List Tree}
    (more : rest ≠ []) :
    Tree.ofAlternatives (first.ledItems change :: rest) =
      (Tree.ofAlternatives (first :: rest)).led change := by
  -- With further alternatives, the first one keeps its place.
  cases rest with
  | nil => exact absurd rfl more
  | cons next others => rfl

/-- An expression behind a change of flags means what it means under the flags after the change. -/
theorem Tree.expr_led (change : FlagChange) (tree : Tree) (flags : Flags) :
    (tree.led change).expr flags = tree.expr (flags.change change) := by
  -- The change itself matches the empty text, which leaves no trace in front of other items.
  have items (tree : Tree) :
      (tree.ledItems change).expr flags = tree.expr (flags.change change) := by
    have append : (tree.expr (flags.change change) >>= fun read =>
        .ok (Expr.empty.append read.1, read.2)) = tree.expr (flags.change change) := by
      cases tree.expr (flags.change change) <;> rfl
    cases tree <;> first | rfl | exact append
  unfold led
  split
  · -- The flags behind the first alternative are those in front of the next one.
    show ((Tree.ledItems change _).expr flags >>= _) = _
    rw [items]
    rfl
  · exact items _

namespace Stack

/-- A stack and the one it becomes behind a change of flags: the change stands before the first item
of the first alternative of all. -/
inductive Led (change : FlagChange) : Stack → Stack → Prop where
  | first {items : List Tree} (proper : ∀ item ∈ items, item.IsItem) :
    Led change ⟨⟨[], items⟩, []⟩ ⟨⟨[], items ++ [.setFlags change]⟩, []⟩
  | later {first : Tree} {done items : List Tree} :
    Led change ⟨⟨done ++ [first], items⟩, []⟩ ⟨⟨done ++ [first.ledItems change], items⟩, []⟩
  | inside {branches outer outer' : Branches} {captures : Bool} {own : FlagChange}
    {groups groups' : List OpenGroup} (around : Led change ⟨outer, groups⟩ ⟨outer', groups'⟩) :
    Led change ⟨branches, ⟨outer, captures, own⟩ :: groups⟩
      ⟨branches, ⟨outer', captures, own⟩ :: groups'⟩

variable {change : FlagChange} {stack led after : Stack}

/-- An item can be added behind a change of flags. -/
theorem Led.push (related : Led change stack led) {item : Tree} (isItem : item.IsItem) :
    Led change (stack.push item) (led.push item) := by
  -- The item is added to the innermost group, and the change stands at the bottom of the stack.
  cases related with
  | first proper =>
    refine .first fun other member => ?_
    rcases List.mem_cons.1 member with rfl | earlier
    · exact isItem
    · exact proper other earlier
  | later => exact .later
  | inside around => exact .inside around

/-- What can be repeated can be repeated behind a change of flags. -/
theorem Led.repeatItem (related : Led change stack led) {least : Nat} {most : Option Nat}
    (repeated : stack.repeatItem least most = .ok after) :
    ∃ ledAfter, led.repeatItem least most = .ok ledAfter ∧ Led change after ledAfter := by
  -- The change of flags itself cannot be repeated, so there is an item behind it.
  cases related with
  | @first items proper =>
    match items with
    | [] => cases repeated
    | item :: rest =>
      have related : Led change ⟨⟨[], .repetition least most item :: rest⟩, []⟩
          ⟨⟨[], .repetition least most item :: (rest ++ [.setFlags change])⟩, []⟩ := by
        refine .first fun other member => ?_
        rcases List.mem_cons.1 member with rfl | earlier
        · trivial
        · exact proper other (List.mem_cons_of_mem _ earlier)
      cases item <;> cases repeated <;> exact ⟨_, rfl, related⟩
  | @later first done items =>
    match items with
    | [] => cases repeated
    | item :: rest => cases item <;> cases repeated <;> exact ⟨_, rfl, .later⟩
  | @inside branches outer outer' captures own groups groups' around =>
    obtain ⟨done, items⟩ := branches
    match items with
    | [] => cases repeated
    | item :: rest => cases item <;> cases repeated <;> exact ⟨_, rfl, .inside around⟩

/-- Every action can be performed behind a change of flags. -/
theorem Led.act (related : Led change stack led) {action : Action}
    (acted : stack.act action = .ok after) :
    ∃ ledAfter, led.act action = .ok ledAfter ∧ Led change after ledAfter := by
  -- The change of flags stays at the bottom of the stack, below whatever the action touches.
  cases action with
  | atom a =>
    cases acted
    exact ⟨_, rfl, related.push trivial⟩
  | bracketed negated body =>
    cases acted
    exact ⟨_, rfl, related.push trivial⟩
  | setFlags own =>
    cases acted
    exact ⟨_, rfl, related.push trivial⟩
  | repetition least most => exact related.repeatItem acted
  | repeatable =>
    obtain ⟨_, repeated, rfl⟩ := map_eq_ok.1 acted
    obtain ⟨_, again, _⟩ := related.repeatItem repeated
    exact ⟨led, map_eq_ok.2 ⟨_, again, rfl⟩, related⟩
  | alternative =>
    cases related with
    | @first items proper =>
      -- From here on the first alternative is complete, with the change in front.
      cases acted
      have reversed : ∀ item ∈ items.reverse, item.IsItem := by simpa using proper
      have same : Tree.ofItems (items ++ [Tree.setFlags change]).reverse =
          (Tree.ofItems items.reverse).ledItems change := by
        rw [List.reverse_append]
        exact Tree.ofItems_led change reversed
      have related : Led change ⟨⟨[] ++ [Tree.ofItems items.reverse], []⟩, []⟩
          ⟨⟨[] ++ [(Tree.ofItems items.reverse).ledItems change], []⟩, []⟩ := .later
      exact ⟨_, rfl, same ▸ related⟩
    | @later first done items =>
      cases acted
      have related : Led change
          ⟨⟨(Tree.ofItems items.reverse :: done) ++ [first], []⟩, []⟩
          ⟨⟨(Tree.ofItems items.reverse :: done) ++ [first.ledItems change], []⟩, []⟩ := .later
      exact ⟨_, rfl, related⟩
    | inside around =>
      cases acted
      exact ⟨_, rfl, .inside around⟩
  | openGroup captures own =>
    cases acted
    exact ⟨_, rfl, .inside related⟩
  | closeGroup =>
    cases related with
    | first => cases acted
    | later => cases acted
    | inside around =>
      -- The group becomes an item of the group around it.
      cases acted
      exact ⟨_, rfl, around.push trivial⟩

/-- All actions can be performed behind a change of flags. -/
theorem Led.perform (related : Led change stack led) {actions : List Action}
    (performed : stack.perform actions = .ok after) :
    ∃ ledAfter, led.perform actions = .ok ledAfter ∧ Led change after ledAfter := by
  -- Induct over the actions, the newest of which is performed last.
  induction actions generalizing after with
  | nil =>
    cases performed
    exact ⟨led, rfl, related⟩
  | cons action earlier ih =>
    obtain ⟨middle, first, last⟩ := bind_eq_ok.1 performed
    obtain ⟨ledMiddle, ledFirst, between⟩ := ih first
    obtain ⟨ledAfter, ledLast, related⟩ := between.act last
    exact ⟨ledAfter, bind_eq_ok.2 ⟨ledMiddle, ledFirst, ledLast⟩, related⟩

/-- With no group open, the whole expression has the change of flags in front. -/
theorem Led.tree (related : Led change stack led) (closed : stack.groups = []) :
    led.groups = [] ∧ led.branches.tree = stack.branches.tree.led change := by
  -- The change stands in the only alternative, or in the first one of several.
  cases related with
  | @first items proper =>
    have reversed : ∀ item ∈ items.reverse, item.IsItem := by simpa using proper
    refine ⟨rfl, ?_⟩
    simp only [Branches.tree, List.reverse_append, List.reverse_cons, List.reverse_nil,
      List.nil_append, Tree.ofAlternatives, List.singleton_append]
    rw [Tree.led_ofItems change reversed]
    exact Tree.ofItems_led change reversed
  | @later first done items =>
    refine ⟨rfl, ?_⟩
    simp only [Branches.tree, List.reverse_cons, List.reverse_append, List.reverse_nil,
      List.nil_append, List.cons_append]
    exact Tree.ofAlternatives_led change (by simp)
  | inside around => cases closed

end Stack

/-- What the last character did is forgotten before the next one is taken. -/
theorem State.step_congr {s t : State}
    (same : { s with actions := [] } = { t with actions := [] }) : t.step = s.step := by
  -- A step forgets them at once.
  funext c
  show State.step { t with actions := [] } c = State.step { s with actions := [] } c
  rw [same]

/-- What the last character did is forgotten before the end. -/
theorem State.finish_congr {s t : State}
    (same : { s with actions := [] } = { t with actions := [] }) : t.finish = s.finish := by
  -- The end forgets them at once.
  show State.finish { t with actions := [] } = State.finish { s with actions := [] }
  rw [same]

/-- Two readings of the same text, the second of which has met a change of flags before. -/
structure Reading.Led (change : FlagChange) (r led : Reading) : Prop where
  state : { r.state with actions := [] } = { led.state with actions := [] }
  stack : Stack.Led change r.stack led.stack

namespace Reading.Led

variable {change : FlagChange} {r led : Reading}

/-- A character that is read is read in the same way behind a change of flags. -/
theorem step (related : Led change r led) {c : Char} {after : Reading}
    (stepped : r.step c = .ok after) :
    ∃ ledAfter, led.step c = .ok ledAfter ∧ Led change after ledAfter := by
  -- The states are the same, so the same actions are performed.
  obtain ⟨state, taken, rest⟩ := bind_eq_ok.1 stepped
  obtain ⟨stack, performed, result⟩ := bind_eq_ok.1 rest
  cases result
  obtain ⟨ledStack, ledPerformed, pairs⟩ := related.stack.perform performed
  have same : led.state.step c = r.state.step c := by rw [State.step_congr related.state]
  have ledRest : (do .ok ⟨state, ← led.stack.perform state.actions⟩ : Except Fault Reading) =
      .ok ⟨state, ledStack⟩ := bind_eq_ok.2 ⟨ledStack, ledPerformed, rfl⟩
  exact ⟨⟨state, ledStack⟩, bind_eq_ok.2 ⟨state, same ▸ taken, ledRest⟩, rfl, pairs⟩

/-- A text that is read is read in the same way behind a change of flags. -/
theorem steps (related : Led change r led) {text : List Char} {after : Reading}
    (read : text.foldlM Reading.step r = .ok after) :
    ∃ ledAfter, text.foldlM Reading.step led = .ok ledAfter ∧ Led change after ledAfter := by
  -- Induct over the text, one character after the other.
  induction text generalizing r led with
  | nil =>
    cases read
    exact ⟨led, rfl, related⟩
  | cons c rest ih =>
    obtain ⟨middle, first, last⟩ := bind_eq_ok.1 read
    obtain ⟨ledMiddle, ledFirst, between⟩ := related.step first
    obtain ⟨ledAfter, ledLast, related⟩ := ih between last
    exact ⟨ledAfter, bind_eq_ok.2 ⟨ledMiddle, ledFirst, ledLast⟩, related⟩

/-- An expression that ends well ends well behind a change of flags. -/
theorem finish (related : Led change r led) {tree : Tree} (finished : r.finish = .ok tree) :
    led.finish = .ok (tree.led change) := by
  -- The end adds the same actions, and then no group is open in either.
  obtain ⟨state, ended, rest⟩ := bind_eq_ok.1 finished
  obtain ⟨stack, performed, result⟩ := bind_eq_ok.1 rest
  obtain ⟨ledStack, ledPerformed, pairs⟩ := related.stack.perform performed
  have same : led.state.finish = r.state.finish := State.finish_congr related.state
  cases closed : stack.groups with
  | cons group outer => simp [closed] at result
  | nil =>
    obtain ⟨ledClosed, tree⟩ := pairs.tree closed
    simp only [closed, Except.ok.injEq] at result
    subst result
    refine bind_eq_ok.2 ⟨state, same ▸ ended, bind_eq_ok.2 ⟨ledStack, ledPerformed, ?_⟩⟩
    simp [ledClosed, tree]

end Reading.Led

end NamedParams.Regex
