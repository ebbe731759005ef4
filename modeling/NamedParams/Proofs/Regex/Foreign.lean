import NamedParams.Proofs.Regex.Meaning
import NamedParams.Proofs.Unicode.Foreign

/-! Expressions that mean nothing as they ask for a property that has no name. -/

namespace NamedParams.Regex

/-- A single item that asks for a property by a foreign name. -/
def Atom.Foreign : Atom → Prop
  | .property query _ => query.Foreign
  | _ => False

/-- The inside of a class in which a property is asked for by a foreign name. -/
def ClassTree.Foreign : ClassTree → Prop
  | .property query _ => query.Foreign
  | .bracketed _ body => body.Foreign
  | .union first rest => first.Foreign ∨ rest.Foreign
  | .combine _ left right => left.Foreign ∨ right.Foreign
  | _ => False

/-- A leaf in which a property is asked for by a foreign name. -/
def Leaf.Foreign : Leaf → Prop
  | .flags _ => False
  | .atom a => a.Foreign
  | .body inside => inside.Foreign

/-- A property with a foreign name has no members. -/
theorem Flags.property_foreign (flags : Flags) {query : Unicode.Query} (foreign : query.Foreign)
    (negated : Bool) : ∃ fault, flags.property query negated = .error fault := by
  -- Without Unicode there are no properties, and with it none has such a name.
  unfold Flags.property
  split
  · exact ⟨_, rfl⟩
  · obtain ⟨fault, answer⟩ := Unicode.Query.answer_foreign foreign
    rw [answer]
    cases fault <;> exact ⟨_, rfl⟩

/-- A step that fails makes every continuation fail. -/
theorem bind_fails {α β : Type} {first : Except Fault α} (next : α → Except Fault β)
    (fails : (∃ fault, first = .error fault) ∨ ∀ a, ∃ fault, next a = .error fault) :
    ∃ fault, first >>= next = .error fault := by
  -- The first step fails, or the continuation does whatever the first step gives.
  cases first with
  | error fault => exact ⟨fault, rfl⟩
  | ok a =>
    rcases fails with ⟨_, absurd⟩ | fails
    · cases absurd
    · exact fails a

/-- The inside of a class has no members where a property is asked for by a foreign name. -/
theorem ClassTree.members_foreign (flags : Flags) {body : ClassTree} (foreign : body.Foreign) :
    ∃ fault, body.members flags = .error fault := by
  -- One part that fails is enough, whichever part is asked for its members first.
  induction body with
  | property query negated => exact flags.property_foreign foreign negated
  | bracketed negated body ih => exact bind_fails _ (.inl (ih foreign))
  | union first rest ihFirst ihRest =>
    rcases foreign with foreign | foreign
    · exact bind_fails _ (.inl (ihFirst foreign))
    · exact bind_fails _ (.inr fun _ => bind_fails _ (.inl (ihRest foreign)))
  | combine op left right ihLeft ihRight =>
    rcases foreign with foreign | foreign
    · exact bind_fails _ (.inl (ihLeft foreign))
    · exact bind_fails _ (.inr fun _ => bind_fails _ (.inl (ihRight foreign)))
  | _ => exact foreign.elim

/-- An expression means nothing where a property is asked for by a foreign name. -/
theorem Tree.expr_foreign {tree : Tree} {leaf : Leaf} (member : leaf ∈ tree.leaves)
    (foreign : leaf.Foreign) (flags : Flags) : ∃ fault, tree.expr flags = .error fault := by
  -- The flags change from part to part, but under none of them such a property has members.
  induction tree generalizing flags with
  | empty => cases member
  | setFlags change =>
    cases List.mem_singleton.1 member
    exact foreign.elim
  | atom a =>
    cases List.mem_singleton.1 member
    cases a with
    | property query negated =>
      obtain ⟨fault, failed⟩ := flags.property_foreign foreign negated
      exact ⟨fault, by simp [expr, Atom.expr, failed, Except.map]⟩
    | _ => exact foreign.elim
  | bracketed negated body =>
    cases List.mem_singleton.1 member
    exact bind_fails _ (.inl (body.members_foreign flags foreign))
  | repetition least most body ih => exact bind_fails _ (.inl (ih member flags))
  | group captures change body ih =>
    -- The change of the group is in force inside, which makes no difference.
    rcases List.mem_cons.1 member with rfl | inner
    · exact foreign.elim
    · exact bind_fails _ (.inl (ih inner _))
  | concat first rest ihFirst ihRest =>
    -- The second part is asked only if the first means something, and fails then.
    rcases List.mem_append.1 member with front | back
    · exact bind_fails _ (.inl (ihFirst front flags))
    · exact bind_fails _ (.inr fun _ => bind_fails _ (.inl (ihRest back _)))
  | alternation first rest ihFirst ihRest =>
    rcases List.mem_append.1 member with front | back
    · exact bind_fails _ (.inl (ihFirst front flags))
    · exact bind_fails _ (.inr fun _ => bind_fails _ (.inl (ihRest back _)))

end NamedParams.Regex
