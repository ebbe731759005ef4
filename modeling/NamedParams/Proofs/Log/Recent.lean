import Mathlib.Data.List.DropRight
import Mathlib.Data.List.Induction
import NamedParams.Log.Recent

/-! A log in memory keeps the newest of the events that pass its minimum level. -/

namespace NamedParams.Log

/-- The event that an operation hands to the log. -/
def Operation.event? : Operation → Option Event
  | .log event => some event
  | .clear => none

/-- The events handed to a log since it was emptied last, the first one first. -/
def sinceCleared (operations : List Operation) : List Event :=
  (operations.rtakeWhile (· ≠ .clear)).filterMap Operation.event?

/-- An event that is handed over last comes behind all the others. -/
theorem sinceCleared_log (operations : List Operation) (event : Event) :
    sinceCleared (operations ++ [.log event]) = sinceCleared operations ++ [event] := by
  -- Taken from the end, the operation is kept and those before it are looked at as before.
  have kept : decide (Operation.log event ≠ .clear) = true := by simp
  rw [sinceCleared, List.rtakeWhile_concat, if_pos kept, List.filterMap_append]
  rfl

/-- Nothing has been handed over since a log was emptied. -/
theorem sinceCleared_clear (operations : List Operation) :
    sinceCleared (operations ++ [.clear]) = [] := by
  -- Taken from the end, the operations stop at once.
  have dropped : ¬ decide (Operation.clear ≠ .clear) = true := by simp
  rw [sinceCleared, List.rtakeWhile_concat, if_neg dropped, List.filterMap_nil]

/-- With one more element the last ones start one later, unless all were among them. -/
theorem rtake_append_singleton {α : Type} {count : Nat} (positive : 0 < count) (elements : List α)
    (last : α) :
    (elements ++ [last]).rtake count =
      (if count ≤ elements.length then (elements.rtake count).tail else elements.rtake count) ++
        [last] := by
  rw [List.rtake, List.length_append, List.length_singleton]
  -- Either the new list is cut in front, or it is short enough to be taken whole.
  split
  · have start : elements.length + 1 - count = elements.length - count + 1 := by omega
    have within : elements.length - count + 1 ≤ elements.length := by omega
    rw [start, List.drop_append_of_le_length within, List.rtake, List.tail_drop]
  · have start : elements.length + 1 - count = elements.length - count := by omega
    have within : elements.length - count ≤ elements.length := by omega
    rw [start, List.drop_append_of_le_length within, List.rtake]

namespace Recent

/-- A queue holds the newest events, as far as there is room, and knows how many it holds. -/
structure Keeps (r : Recent) (logged : List Event) : Prop where
  newest : r.toList = logged.rtake recentCapacity
  counted : r.size = r.toList.length

/-- A new queue holds what has been logged before anything is. -/
theorem keeps_empty : empty.Keeps [] := by
  -- No event is the newest of none.
  refine ⟨?_, rfl⟩
  rw [List.rtake_nil]
  rfl

/-- The oldest event is the first one, also where all events are among the newest. -/
theorem toList_dropOldest (r : Recent) : r.dropOldest.toList = r.toList.tail := by
  -- Only where the front is empty must the back be turned around to find the oldest event.
  obtain ⟨front, back, size⟩ := r
  cases front with
  | nil => simp [dropOldest, toList]
  | cons oldest rest => rfl

/-- The events behind an added one are those in front of it, less the oldest one if there was no
room. -/
theorem toList_push (r : Recent) (event : Event) :
    (r.push event).toList =
      (if recentCapacity ≤ r.size then r.toList.tail else r.toList) ++ [event] := by
  have added (room : Recent) :
      toList ⟨room.front, event :: room.back, room.size + 1⟩ = room.toList ++ [event] := by
    simp [toList]
  rw [push, added]
  -- What has been the oldest event makes room for the new one if there is none.
  split
  · rw [toList_dropOldest]
  · rfl

/-- Where there is no room, one event leaves for the one that is added. -/
theorem size_push (r : Recent) (event : Event) :
    (r.push event).size = if recentCapacity ≤ r.size then r.size - 1 + 1 else r.size + 1 := by
  -- The count goes down with the oldest event, whichever of the two lists it is taken from.
  have dropped : r.dropOldest.size = r.size - 1 := by
    obtain ⟨front, back, size⟩ := r
    cases front <;> rfl
  unfold push
  split
  · exact congrArg (· + 1) dropped
  · rfl

/-- A queue that holds the newest events still does so when one more is added. -/
theorem Keeps.push {r : Recent} {logged : List Event} (keeps : r.Keeps logged) (event : Event) :
    (r.push event).Keeps (logged ++ [event]) := by
  have counted : r.size = r.toList.length := keeps.counted
  -- There is no room exactly if at least as many events were logged as can be held.
  have full : recentCapacity ≤ r.size ↔ recentCapacity ≤ logged.length := by
    rw [counted, keeps.newest, List.rtake, List.length_drop]
    omega
  refine ⟨?_, ?_⟩
  · have positive : 0 < recentCapacity := by decide
    rw [toList_push, rtake_append_singleton positive, keeps.newest]
    simp only [full]
  · rw [size_push, toList_push, counted]
    split <;> simp

/-- Behind any operations, a log holds the newest events since it was emptied that pass its minimum
level. -/
theorem keeps_run (minimum : Level) (operations : List Operation) :
    (run minimum operations).Keeps
      ((sinceCleared operations).filter fun e => e.level.passes minimum) := by
  -- Induct over the operations from the last one on, which the log performs last.
  induction operations using List.reverseRecOn with
  | nil => exact keeps_empty
  | append_singleton before last ih =>
    rw [run, List.foldl_append]
    change (perform minimum (run minimum before) last).Keeps _
    cases last with
    | clear =>
      rw [sinceCleared_clear]
      exact keeps_empty
    | log event =>
      rw [sinceCleared_log, List.filter_append, perform, Recent.log]
      -- An event that does not pass neither enters the queue nor makes another one leave.
      by_cases passes : event.level.passes minimum = true
      · rw [if_pos passes, List.filter_singleton, passes]
        exact ih.push event
      · rw [if_neg passes, List.filter_singleton, Bool.eq_false_iff.2 passes]
        simpa using ih

/-- Behind any operations, a log holds exactly the last 10000 events, or all where there are fewer,
of those since it was emptied whose levels are at most its minimum level, and answers from these. -/
theorem holds_newest (minimum : Level) (operations : List Operation) :
    let logged := (sinceCleared operations).filter fun e => e.level.rank ≤ minimum.rank
    let kept := logged.drop (logged.length - 10000)
    let log := run minimum operations
    log.toList = kept ∧ kept.length = min logged.length 10000 ∧
      log.size = kept.length ∧ log.size ≤ 10000 ∧
      log.errors = kept.filter (fun e => e.level = .error) ∧
      (∀ code, log.withCode code = kept.filter fun e => e.code = code) ∧
      (∀ code, log.hasError code = true ↔ ∃ e ∈ kept, e.level = .error ∧ e.code = code) ∧
      ∀ code, log.hasSuccess code = true ↔ ∃ e ∈ kept, e.level = .info ∧ e.code = code := by
  -- The queue answers every question from its list, so one invariant of whole runs decides all.
  intro logged kept log
  have keeps : log.Keeps logged := keeps_run minimum operations
  have held : log.toList = kept := keeps.newest
  have size : log.size = kept.length := by rw [keeps.counted, held]
  -- A list without its surplus in front has at most as many elements as there is room.
  have length : kept.length = min logged.length 10000 := by
    rw [List.length_drop]
    omega
  have bounded : log.size ≤ 10000 := by omega
  refine ⟨held, length, size, bounded, ?_, fun code => ?_, fun code => ?_, fun code => ?_⟩
  · rw [errors, held]
  · rw [withCode, held]
  · rw [hasError, held]
    simp
  · rw [hasSuccess, held]
    simp

end Recent

end NamedParams.Log
