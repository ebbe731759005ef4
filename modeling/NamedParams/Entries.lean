/-! Bindings of values to keys, kept in increasing order of the keys. -/

namespace NamedParams.Entries

/-- No key occurs twice. -/
def Distinct (entries : List (String × α)) : Prop :=
  entries.Pairwise fun left right => left.1 ≠ right.1

/-- The keys increase strictly, so none occurs twice. -/
def Increasing (entries : List (String × α)) : Prop :=
  entries.Pairwise fun left right => left.1 < right.1

/-- Removes each binding that the next one overwrites. -/
def dropOverwritten : List (String × α) → List (String × α)
  | [] => []
  | [entry] => [entry]
  | entry :: next :: rest =>
    if entry.1 = next.1 then dropOverwritten (next :: rest)
    else entry :: dropOverwritten (next :: rest)

/-- Orders bindings given in any order; of equal keys the last one stays. -/
def sort (entries : List (String × α)) : List (String × α) :=
  -- A stable sort keeps the bindings of one key in the order they were given.
  dropOverwritten (entries.mergeSort fun left right => decide (left.1 ≤ right.1))

/-- Binds a key in ordered entries, in place of an earlier binding. -/
def insert (key : String) (value : α) : List (String × α) → List (String × α)
  | [] => [(key, value)]
  | entry :: rest =>
    if key < entry.1 then (key, value) :: entry :: rest
    else if key = entry.1 then (key, value) :: rest
    else entry :: insert key value rest

/-- What is left after overwriting was there before. -/
theorem mem_of_mem_dropOverwritten {entry : String × α} {entries : List (String × α)}
    (kept : entry ∈ dropOverwritten entries) : entry ∈ entries := by
  -- Induct along the removal, which keeps the first of two entries or drops it.
  fun_induction dropOverwritten entries with
  | case1 => exact kept
  | case2 => exact kept
  | case3 head next rest same ih => exact List.mem_cons_of_mem _ (ih kept)
  | case4 head next rest distinct ih =>
    rcases List.mem_cons.1 kept with here | later
    · exact here ▸ List.mem_cons_self
    · exact List.mem_cons_of_mem _ (ih later)

/-- Overwriting turns weakly ordered keys into strictly ordered ones. -/
theorem increasing_dropOverwritten {entries : List (String × α)}
    (ordered : entries.Pairwise fun left right => left.1 ≤ right.1) :
    Increasing (dropOverwritten entries) := by
  fun_induction dropOverwritten entries with
  | case1 => exact List.Pairwise.nil
  | case2 => exact List.pairwise_singleton _ _
  | case3 head next rest same ih => exact ih (List.pairwise_cons.1 ordered).2
  | case4 head next rest distinct ih =>
    obtain ⟨first, others⟩ := List.pairwise_cons.1 ordered
    refine List.pairwise_cons.2 ⟨fun entry kept => ?_, ih others⟩
    -- Equality with a later key would force equality with the next one.
    have below := first entry (mem_of_mem_dropOverwritten kept)
    refine String.not_le.1 fun above => distinct (String.le_antisymm (first next (by simp)) ?_)
    rcases List.mem_cons.1 (mem_of_mem_dropOverwritten kept) with here | later
    · exact here ▸ above
    · exact String.le_trans ((List.pairwise_cons.1 others).1 entry later) above

/-- Sorted bindings have strictly increasing keys. -/
theorem increasing_sort (entries : List (String × α)) : Increasing (sort entries) := by
  -- Sorting alone leaves equal keys next to each other, and the removal parts them.
  apply increasing_dropOverwritten
  have sorted := @List.pairwise_mergeSort _
    (fun left right : String × α => decide (left.1 ≤ right.1))
    (fun a b c ab bc => by simpa using String.le_trans (by simpa using ab) (by simpa using bc))
    (fun a b => by simpa using String.le_total a.1 b.1) entries
  exact sorted.imp fun le => by simpa using le

/-- Every key of the result is the new one or an old one. -/
theorem mem_insert {key : String} {value : α} {entries : List (String × α)} {entry : String × α}
    (found : entry ∈ insert key value entries) : entry = (key, value) ∨ entry ∈ entries := by
  -- Induct over the entries up to the place where the new one goes in.
  induction entries with
  | nil => simpa [insert] using found
  | cons head rest ih =>
    unfold insert at found
    split at found
    · simpa using found
    · split at found
      · rcases List.mem_cons.1 found with here | later
        · exact .inl here
        · exact .inr (List.mem_cons_of_mem _ later)
      · rcases List.mem_cons.1 found with here | later
        · exact .inr (here ▸ List.mem_cons_self)
        · exact (ih later).imp_right (List.mem_cons_of_mem _)

/-- Binding a key keeps the keys in strictly increasing order. -/
theorem increasing_insert {key : String} {value : α} {entries : List (String × α)}
    (increasing : Increasing entries) : Increasing (insert key value entries) := by
  -- The new entry goes in front of the first greater key, or in place of its own.
  induction entries with
  | nil => exact List.pairwise_singleton _ _
  | cons head rest ih =>
    obtain ⟨first, others⟩ := List.pairwise_cons.1 increasing
    unfold insert
    split
    · rename_i below
      refine List.pairwise_cons.2 ⟨fun entry member => ?_, increasing⟩
      rcases List.mem_cons.1 member with here | later
      · exact here ▸ below
      · exact String.lt_trans below (first entry later)
    · split
      · rename_i _ same
        exact List.pairwise_cons.2 ⟨fun entry member => by simpa [same] using first entry member, others⟩
      · rename_i notBelow distinct
        refine List.pairwise_cons.2 ⟨fun entry member => ?_, ih others⟩
        rcases mem_insert member with here | later
        · subst here
          -- The key is neither below the head nor equal to it.
          refine String.not_le.1 fun le => distinct (String.le_antisymm le (String.not_lt.1 notBelow))
        · exact first entry later

end NamedParams.Entries
