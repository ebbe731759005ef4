/-! Results of steps that may fail, taken apart by how they came about. -/

namespace NamedParams

variable {ε α β : Type}

/-- A mapped result succeeds exactly if the result itself does. -/
@[simp] theorem map_eq_ok {result : Except ε α} {f : α → β} {b : β} :
    result.map f = .ok b ↔ ∃ a, result = .ok a ∧ f a = b := by
  cases result <;> simp [Except.map]

/-- A mapped result is some value exactly if the result itself is. -/
theorem exists_map_eq_ok {result : Except ε α} {f : α → β} :
    (∃ b, result.map f = .ok b) ↔ ∃ a, result = .ok a := by
  cases result <;> simp [Except.map]

/-- A mapped result fails exactly as the result itself does. -/
@[simp] theorem map_eq_error {result : Except ε α} {f : α → β} {e : ε} :
    result.map f = .error e ↔ result = .error e := by
  cases result <;> simp [Except.map]

/-- Two steps succeed exactly if the first does and then the second. -/
@[simp] theorem bind_eq_ok {result : Except ε α} {next : α → Except ε β} {b : β} :
    result >>= next = .ok b ↔ ∃ a, result = .ok a ∧ next a = .ok b := by
  cases result <;> simp [Bind.bind, Except.bind]

/-- A result that is no failure has a value. -/
theorem exists_eq_ok {result : Except ε α} (succeeds : result.toBool = true) :
    ∃ a, result = .ok a := by
  -- A failure would be told by the test.
  cases result with
  | ok a => exact ⟨a, rfl⟩
  | error e => cases succeeds

/-- Two results agree if both are values that are alike, or if none is a value that is not lost. -/
inductive Agree (lost : α → Prop) (alike : α → α → Prop) (first second : Except ε α) : Prop where
  | alike {a b : α} (one : first = .ok a) (other : second = .ok b) (related : alike a b)
  | lost (one : ∀ a, first = .ok a → lost a) (other : ∀ b, second = .ok b → lost b)

namespace Agree

variable {lost : α → Prop} {alike : α → α → Prop} {first second : Except ε α}

/-- Results agree if they have the same image under some function. -/
theorem of_map_eq {f : α → β} (same : first.map f = second.map f) :
    Agree (fun _ => False) (fun a b => f a = f b) first second := by
  -- The image of the first result tells how the second one went.
  cases first with
  | error e =>
    have failed : second = .error e := map_eq_error.1 same.symm
    exact .lost nofun (by simp [failed])
  | ok a =>
    obtain ⟨b, succeeded, image⟩ := map_eq_ok.1 same.symm
    exact .alike rfl succeeded image.symm

/-- Results that agree with nothing lost agree whatever counts as lost. -/
theorem weaken (agree : Agree (fun _ => False) alike first second) :
    Agree lost alike first second := by
  -- What counts as lost was not needed, as no value was.
  cases agree with
  | alike one other related => exact .alike one other related
  | lost one other => exact .lost (fun a result => (one a result).elim) fun b result =>
      (other b result).elim

/-- Steps that agree behind results that agree, agree as a whole. -/
theorem bind {lost' : β → Prop} {alike' : β → β → Prop} {next next' : α → Except ε β}
    (agree : Agree lost alike first second)
    (still : ∀ a, lost a → ∀ b, next a = .ok b → lost' b)
    (still' : ∀ a, lost a → ∀ b, next' a = .ok b → lost' b)
    (steps : ∀ a a', first = .ok a → alike a a' → Agree lost' alike' (next a) (next' a')) :
    Agree lost' alike' (first >>= next) (second >>= next') := by
  -- Either both go on from related values, or what is lost before stays lost behind.
  cases agree with
  | alike one other related =>
    have behind := steps _ _ one related
    rwa [one, other]
  | lost one other =>
    refine .lost (fun b result => ?_) fun b result => ?_
    · obtain ⟨a, succeeded, result⟩ := bind_eq_ok.1 result
      exact still a (one a succeeded) b result
    · obtain ⟨a, succeeded, result⟩ := bind_eq_ok.1 result
      exact still' a (other a succeeded) b result

/-- Steps that agree behind results that agree with nothing lost, agree as a whole. -/
theorem bind_alike {lost' : β → Prop} {alike' : β → β → Prop} {next next' : α → Except ε β}
    (agree : Agree (fun _ => False) alike first second)
    (steps : ∀ a a', first = .ok a → alike a a' → Agree lost' alike' (next a) (next' a')) :
    Agree lost' alike' (first >>= next) (second >>= next') :=
  -- As nothing is lost, nothing has to stay lost.
  agree.bind (fun _ => False.elim) (fun _ => False.elim) steps

end Agree

end NamedParams
