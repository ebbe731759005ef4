import Mathlib.Data.List.Induction
import NamedParams.Proofs.Entries
import NamedParams.Proofs.Log.Event

/-! An event is shown alike however the values of its context were attached to it. -/

namespace NamedParams.Log

/-- The value that the last binding of a key gives it. -/
def lastValue (bindings : List (String × String)) (key : String) : Option String :=
  bindings.reverse.lookup key

/-- One more binding decides about its own key only. -/
theorem lastValue_append (bindings : List (String × String)) (last : String × String)
    (key : String) :
    lastValue (bindings ++ [last]) key =
      if key = last.1 then some last.2 else lastValue bindings key := by
  -- Read backwards, the last binding is the first one that is looked at.
  rw [lastValue, List.reverse_append, List.reverse_singleton, List.singleton_append,
    List.lookup_cons]
  by_cases same : key = last.1
  · rw [if_pos same, beq_iff_eq.2 same]
  · rw [if_neg same, beq_eq_false_iff_ne.2 same]
    rfl

/-- Where no key occurs twice, the value that is bound last is the one that is bound. -/
theorem lastValue_of_distinct {bindings : List (String × String)}
    (distinct : Entries.Distinct bindings) {key value : String} :
    lastValue bindings key = some value ↔ (key, value) ∈ bindings := by
  -- The keys are still distinct when they are read backwards.
  have backwards : Entries.Distinct bindings.reverse :=
    List.pairwise_reverse.2 (distinct.imp Ne.symm)
  rw [lastValue, Entries.lookup_eq_some_iff_of_distinct backwards, List.mem_reverse]

namespace Context

variable {c : Context}

/-- An attached value takes the place of an earlier one of its key, and leaves those of others. -/
theorem mem_attach {entry : String × String} {key value : String} :
    entry ∈ (c.attach key value).entries ↔
      entry = (key, value) ∨ entry ∈ c.entries ∧ entry.1 ≠ key := by
  -- Earlier values of the key are filtered out in front of the new one.
  rw [attach, List.mem_cons, List.mem_filter, decide_eq_true_iff]

/-- The values in order are the same values. -/
theorem mem_sorted {entry : String × String} : entry ∈ c.sorted ↔ entry ∈ c.entries :=
  -- Without a key that occurs twice, no value is lost to another one of its key.
  Entries.mem_sort c.distinct

/-- There are no values exactly if there are none in order. -/
theorem isEmpty_sorted (c : Context) : c.sorted.isEmpty = c.entries.isEmpty := by
  -- Sorting neither adds a value nor leaves one out.
  rw [Bool.eq_iff_iff, List.isEmpty_iff, List.isEmpty_iff, List.eq_nil_iff_forall_not_mem,
    List.eq_nil_iff_forall_not_mem]
  exact forall_congr' fun entry => not_congr mem_sorted

/-- The same values in increasing order of their keys. -/
def ordered (c : Context) : Context := ⟨c.sorted, (Entries.increasing_sort c.entries).distinct⟩

/-- Values in order stay as they are when they are put in order. -/
theorem sorted_ordered (c : Context) : c.ordered.sorted = c.sorted :=
  -- The keys increase already.
  Entries.sort_eq_self (Entries.increasing_sort c.entries)

end Context

namespace Event

variable {e : Event} {bindings pairs : List (String × String)} {visited : Context}

/-- A value that is attached last is attached to the event with all the others. -/
theorem attachAll_append (e : Event) (bindings : List (String × String)) (last : String × String) :
    e.attachAll (bindings ++ [last]) = (e.attachAll bindings).attach last.1 last.2 := by
  -- The values are attached from the first to the last.
  rw [attachAll, List.foldl_append]
  rfl

/-- The context binds each key to the value that was attached to it last. -/
theorem mem_context_attachAll (e : Event) (bindings : List (String × String))
    (key value : String) :
    (key, value) ∈ (e.attachAll bindings).context.entries ↔
      lastValue (e.context.entries ++ bindings) key = some value := by
  -- Induct over the bindings from the last one on, which decides about its own key.
  induction bindings using List.reverseRecOn with
  | nil =>
    rw [List.append_nil, lastValue_of_distinct e.context.distinct]
    rfl
  | append_singleton before last ih =>
    rw [attachAll_append, attach, Context.mem_attach, ← List.append_assoc, lastValue_append, ih,
      Prod.ext_iff]
    by_cases same : key = last.1
    · simp only [same, if_true, Option.some_inj, ne_eq, not_true_eq_false, and_false, or_false,
        true_and]
      exact eq_comm
    · -- The bindings of other keys are as they were.
      simp only [same, if_false, ne_eq, not_false_eq_true, and_true, false_and, false_or]

/-- What a line tells about a context that is in order. -/
def contextText (pairs : List (String × String)) : String :=
  if pairs.isEmpty then ""
  else " (" ++ ", ".intercalate (pairs.map fun pair => pair.1 ++ "=" ++ pair.2) ++ ")"

/-- A line tells about the context in order. -/
theorem line_eq (e : Event) :
    e.line = s!"[{e.level.label}] {e.code.text} - {e.message}" ++ contextText e.context.sorted := by
  rw [line, contextText, e.context.isEmpty_sorted]
  -- Whether there are values can be asked of the list in order too.
  split
  · -- Without values, the line ends behind the message.
    rw [String.append_empty]
  · simp only [String.append_assoc]

/-- The JSON has the context in order, unless it is empty. -/
theorem get?_context_toJson (e : Event) (seconds : Int) :
    (e.toJson seconds).get? "context" =
      if e.context.sorted.isEmpty then none
      else some (.object (e.context.sorted.map fun pair => (pair.1, .string pair.2))) := by
  -- An object keeps its entries in order, and so the values that become its entries.
  have values : Json.ofEntries (e.context.entries.map fun pair => (pair.1, .string pair.2)) =
      .object (e.context.sorted.map fun pair => (pair.1, .string pair.2)) :=
    congrArg Json.object (Entries.sort_map _ e.context.distinct)
  rw [e.context.isEmpty_sorted, toJson, values, Json.ofEntries, Json.get?, Entries.lookup_sort]
  · -- No other key of the JSON is that of the context.
    split <;> split <;> simp [List.lookup_cons]
  · unfold Entries.Distinct
    split <;> split <;> simp

/-- The event with its context in order. -/
def ordered (e : Event) : Event := { e with context := e.context.ordered }

/-- The order of the context does not show on the line. -/
theorem line_ordered (e : Event) : e.ordered.line = e.line := by
  -- The context is all that is told apart, and it is told in order.
  rw [e.line_eq, e.ordered.line_eq, ordered, Context.sorted_ordered]

/-- The order of the context does not show in the JSON. -/
theorem toJson_ordered (e : Event) (seconds : Int) :
    e.ordered.toJson seconds = e.toJson seconds := by
  -- Both have a context or neither has, and an object keeps its entries in order.
  have empty : e.context.ordered.entries.isEmpty = e.context.entries.isEmpty :=
    e.context.isEmpty_sorted
  have values :
      Json.ofEntries (e.context.ordered.entries.map fun pair => (pair.1, .string pair.2)) =
        Json.ofEntries (e.context.entries.map fun pair => (pair.1, .string pair.2)) := by
    have again : Entries.sort e.context.ordered.entries = Entries.sort e.context.entries :=
      e.context.sorted_ordered
    rw [Json.ofEntries, Json.ofEntries, Entries.sort_map _ e.context.distinct,
      Entries.sort_map _ e.context.ordered.distinct, again]
  rw [toJson, toJson, ordered]
  simp only [empty, values]

/-- Whatever order the values are visited in, they are shown in one order. -/
theorem sorted_visited (increasing : Entries.Increasing pairs)
    (bound : ∀ key value,
      (key, value) ∈ pairs ↔ lastValue (e.context.entries ++ bindings) key = some value)
    (visits : visited.entries.Perm (e.attachAll bindings).context.entries) :
    visited.sorted = pairs := by
  -- Both lists are in order, and have the same entries.
  refine (Entries.increasing_sort visited.entries).eq_of_mem_iff increasing fun (key, value) => ?_
  rw [Entries.mem_sort visited.distinct, visits.mem_iff, mem_context_attachAll, bound]

/-- Two ways of attaching values that give each key the same last value show alike, in whatever orders
the two contexts are visited: each key once, with its last value, and in increasing order on the
line. -/
theorem shown_alike (e : Event) {first second : List (String × String)} {visited visited' : Context}
    (alike : ∀ key, lastValue (e.context.entries ++ first) key =
      lastValue (e.context.entries ++ second) key)
    (visits : visited.entries.Perm (e.attachAll first).context.entries)
    (visits' : visited'.entries.Perm (e.attachAll second).context.entries) (seconds : Int) :
    let shown : Event := { e.attachAll first with context := visited }
    let other : Event := { e.attachAll second with context := visited' }
    shown.line = other.line ∧ shown.jsonLine seconds = other.jsonLine seconds ∧
      ∃ pairs, Entries.Increasing pairs ∧
        (∀ key value,
          (key, value) ∈ pairs ↔ lastValue (e.context.entries ++ first) key = some value) ∧
        shown.line =
          s!"[{e.level.label}] {e.code.text} - {e.message}" ++ contextText pairs ∧
        (shown.toJson seconds).get? "context" =
          if pairs.isEmpty then none
          else some (.object (pairs.map fun pair => (pair.1, .string pair.2))) := by
  intro shown other
  -- The values that were attached first, in order, are also those of the other way.
  let pairs := (e.attachAll first).context.sorted
  have increasing : Entries.Increasing pairs := Entries.increasing_sort _
  have bound (key value : String) :
      (key, value) ∈ pairs ↔ lastValue (e.context.entries ++ first) key = some value :=
    Context.mem_sorted.trans (e.mem_context_attachAll first key value)
  have bound' (key value : String) :
      (key, value) ∈ pairs ↔ lastValue (e.context.entries ++ second) key = some value :=
    alike key ▸ bound key value
  have inOrder : visited.sorted = pairs := sorted_visited increasing bound visits
  have inOrder' : visited'.sorted = pairs := sorted_visited increasing bound' visits'
  -- Nothing but the contexts could differ, and these are in one order.
  obtain ⟨attached, same⟩ := e.exists_attachAll first
  obtain ⟨attached', same'⟩ := e.exists_attachAll second
  have alone : shown.ordered = other.ordered := by
    have contexts : visited.ordered = visited'.ordered := by
      simp only [Context.ordered, inOrder, inOrder']
    simp only [shown, other, same, same', ordered, contexts]
  refine ⟨?_, ?_, pairs, increasing, bound, ?_, ?_⟩
  · -- Neither the line nor the JSON tells the events from their ordered ones.
    rw [← shown.line_ordered, ← other.line_ordered, alone]
  · rw [jsonLine, jsonLine, ← shown.toJson_ordered, ← other.toJson_ordered, alone]
  · rw [shown.line_eq]
    simp only [shown, same, inOrder]
  · rw [shown.get?_context_toJson]
    simp only [shown, inOrder]

/-- Values of two keys, one of which the event has already, are attached in two orders, and some of
them are overwritten. -/
theorem shown_alike_of_overwritten :
    let e : Event := (info "note").attach "b" "0"
    let first := [("a", "1"), ("b", "2")]
    let second := [("b", "9"), ("a", "3"), ("b", "2"), ("a", "1")]
    let visited : Context := ⟨[("a", "1"), ("b", "2")], List.pairwise_pair.2 (by decide)⟩
    let visited' : Context := ⟨[("b", "2"), ("a", "1")], List.pairwise_pair.2 (by decide)⟩
    let shown : Event := { e.attachAll first with context := visited }
    let other : Event := { e.attachAll second with context := visited' }
    (∀ key, lastValue (e.context.entries ++ first) key =
      lastValue (e.context.entries ++ second) key) ∧
      visited.entries.Perm (e.attachAll first).context.entries ∧
      visited'.entries.Perm (e.attachAll second).context.entries ∧
      shown.line = other.line ∧ shown.jsonLine 0 = other.jsonLine 0 ∧
      shown.line = "[INFO] I000 - note (a=1, b=2)" := by
  intro e first second visited visited' shown other
  have alike (key : String) : lastValue (e.context.entries ++ first) key =
      lastValue (e.context.entries ++ second) key := by
    have attached : e.context.entries = [("b", "0")] := by decide
    rw [attached]
    -- Only the two keys have values.
    rcases em (key = "a") with rfl | notA
    · decide
    · rcases em (key = "b") with rfl | notB
      · decide
      · simp [first, second, lastValue, List.lookup_cons, beq_eq_false_iff_ne.2 notA,
          beq_eq_false_iff_ne.2 notB]
  have visits : visited.entries.Perm (e.attachAll first).context.entries := by decide
  have visits' : visited'.entries.Perm (e.attachAll second).context.entries := by decide
  have increasing : Entries.Increasing visited.entries := List.pairwise_pair.2 (by decide)
  have text : shown.line = "[INFO] I000 - note (a=1, b=2)" := by
    have inOrder : shown.context.sorted = visited.entries := Entries.sort_eq_self increasing
    rw [shown.line_eq, inOrder]
    decide
  -- Each context is visited in an order of its own.
  obtain ⟨line, json, _⟩ := shown_alike e alike visits visits' 0
  exact ⟨alike, visits, visits', line, json, text⟩

end Event

end NamedParams.Log
