import NamedParams.Log.Event

/-! What stays of an event when values are attached to it. -/

namespace NamedParams.Log.Event

/-- Attaching values changes nothing but the context. -/
theorem exists_attachAll (e : Event) (context : List (String × String)) :
    ∃ attached, e.attachAll context = { e with context := attached } := by
  -- Induct over the values: attaching one touches nothing but the context.
  induction context generalizing e with
  | nil => exact ⟨e.context, rfl⟩
  | cons pair rest ih => exact ih (e.attach pair.1 pair.2)

/-- Attaching values keeps the level. -/
@[simp] theorem level_attachAll (e : Event) (context : List (String × String)) :
    (e.attachAll context).level = e.level := by
  obtain ⟨attached, same⟩ := e.exists_attachAll context
  rw [same]

/-- Attaching values keeps the code. -/
@[simp] theorem code_attachAll (e : Event) (context : List (String × String)) :
    (e.attachAll context).code = e.code := by
  obtain ⟨attached, same⟩ := e.exists_attachAll context
  rw [same]

/-- Attaching values keeps the message. -/
@[simp] theorem message_attachAll (e : Event) (context : List (String × String)) :
    (e.attachAll context).message = e.message := by
  obtain ⟨attached, same⟩ := e.exists_attachAll context
  rw [same]

end NamedParams.Log.Event
