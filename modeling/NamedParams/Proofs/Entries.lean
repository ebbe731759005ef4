import NamedParams.Entries

/-! Looking up, binding and sorting entries, and the ones of least and greatest key. -/

namespace NamedParams.Entries

variable {α : Type} {entries : List (String × α)} {picked : String × α → Prop}

/-- An entry that a condition picks out, of the least key among those it picks out. -/
def Least (entries : List (String × α)) (picked : String × α → Prop) (entry : String × α) : Prop :=
  entry ∈ entries ∧ picked entry ∧ ∀ other ∈ entries, picked other → entry.1 ≤ other.1

/-- An entry that a condition picks out, of the greatest key among those it picks out. -/
def Greatest (entries : List (String × α)) (picked : String × α → Prop) (entry : String × α) :
    Prop :=
  entry ∈ entries ∧ picked entry ∧ ∀ other ∈ entries, picked other → other.1 ≤ entry.1

/-- A key below another one is at most that one. -/
theorem le_of_lt {left right : String} (below : left < right) : left ≤ right :=
  -- Keys are ordered linearly.
  String.not_lt.1 fun above => String.lt_irrefl left (String.lt_trans below above)

/-- In ordered entries, those in front of an entry have smaller keys. -/
theorem lt_of_mem_front {before after : List (String × α)} {entry other : String × α}
    (increasing : Increasing (before ++ entry :: after)) (front : other ∈ before) :
    other.1 < entry.1 :=
  -- The order holds between any two entries, not only between neighbours.
  (List.pairwise_append.1 increasing).2.2 other front entry List.mem_cons_self

/-- In ordered entries, those behind an entry have greater keys. -/
theorem lt_of_mem_behind {before after : List (String × α)} {entry other : String × α}
    (increasing : Increasing (before ++ entry :: after)) (behind : other ∈ after) :
    entry.1 < other.1 :=
  -- The order holds between any two entries, not only between neighbours.
  (List.pairwise_cons.1 (List.pairwise_append.1 increasing).2.1).1 other behind

/-- The least entry that is picked out has none that is picked out in front of it. -/
theorem Least.split (increasing : Increasing entries) {entry : String × α}
    (least : Least entries picked entry) :
    ∃ before after, entries = before ++ entry :: after ∧ ∀ other ∈ before, ¬ picked other := by
  -- An entry in front would have a smaller key.
  obtain ⟨member, _, minimal⟩ := least
  obtain ⟨before, after, rfl⟩ := List.append_of_mem member
  refine ⟨before, after, rfl, fun other front chosen => ?_⟩
  have below := lt_of_mem_front increasing front
  exact String.not_le.2 below (minimal other (List.mem_append_left _ front) chosen)

/-- The greatest entry that is picked out has none that is picked out behind it. -/
theorem Greatest.split (increasing : Increasing entries) {entry : String × α}
    (greatest : Greatest entries picked entry) :
    ∃ before after, entries = before ++ entry :: after ∧ ∀ other ∈ after, ¬ picked other := by
  -- An entry behind would have a greater key.
  obtain ⟨member, _, maximal⟩ := greatest
  obtain ⟨before, after, rfl⟩ := List.append_of_mem member
  refine ⟨before, after, rfl, fun other behind chosen => ?_⟩
  have above := lt_of_mem_behind increasing behind
  exact String.not_le.2 above (maximal other (by simp [behind]) chosen)

/-- An entry of the least key that is picked out is also the least of other entries, if whatever is
picked out of those has a counterpart of its key. -/
theorem Least.of_counterparts {others : List (String × α)} {chosen : String × α → Prop}
    {entry counterpart : String × α} (least : Least entries picked entry)
    (member : counterpart ∈ others) (same : counterpart.1 = entry.1) (holds : chosen counterpart)
    (back : ∀ other ∈ others, chosen other →
      ∃ origin ∈ entries, origin.1 = other.1 ∧ picked origin) :
    Least others chosen counterpart := by
  -- Whatever is picked out of the others stands for an entry of at least the least key.
  refine ⟨member, holds, fun other inside here => ?_⟩
  obtain ⟨origin, among, key, picks⟩ := back other inside here
  rw [same, ← key]
  exact least.2.2 origin among picks

/-- A condition that picks out some entry picks out a least one. -/
theorem exists_least (increasing : Increasing entries)
    (some_picked : ∃ entry ∈ entries, picked entry) : ∃ entry, Least entries picked entry := by
  -- The first entry that is picked out has the least key.
  induction entries with
  | nil => simp at some_picked
  | cons head rest ih =>
    obtain ⟨first, others⟩ := List.pairwise_cons.1 increasing
    by_cases chosen : picked head
    · -- All other keys are greater than that of the head.
      refine ⟨head, List.mem_cons_self, chosen, fun other member _ => ?_⟩
      rcases List.mem_cons.1 member with rfl | later
      · exact String.le_refl _
      · exact le_of_lt (first other later)
    · -- The head is not picked out, so it does not count.
      obtain ⟨entry, member, holds⟩ := some_picked
      have later : entry ∈ rest := by
        rcases List.mem_cons.1 member with rfl | later
        · exact absurd holds chosen
        · exact later
      obtain ⟨least, inside, holds, minimal⟩ := ih others ⟨entry, later, holds⟩
      refine ⟨least, List.mem_cons_of_mem _ inside, holds, fun other member here => ?_⟩
      rcases List.mem_cons.1 member with rfl | later
      · exact absurd here chosen
      · exact minimal other later here

/-- A condition that picks out some entry picks out a greatest one. -/
theorem exists_greatest (increasing : Increasing entries)
    (some_picked : ∃ entry ∈ entries, picked entry) : ∃ entry, Greatest entries picked entry := by
  -- The last entry that is picked out has the greatest key.
  induction entries with
  | nil => simp at some_picked
  | cons head rest ih =>
    obtain ⟨first, others⟩ := List.pairwise_cons.1 increasing
    by_cases later : ∃ entry ∈ rest, picked entry
    · -- Whatever is picked out behind the head has a greater key than the head.
      obtain ⟨greatest, inside, holds, maximal⟩ := ih others later
      refine ⟨greatest, List.mem_cons_of_mem _ inside, holds, fun other member here => ?_⟩
      rcases List.mem_cons.1 member with rfl | behind
      · exact le_of_lt (first greatest inside)
      · exact maximal other behind here
    · -- Only the head is picked out.
      obtain ⟨entry, member, holds⟩ := some_picked
      rcases List.mem_cons.1 member with rfl | behind
      · refine ⟨entry, List.mem_cons_self, holds, fun other member here => ?_⟩
        rcases List.mem_cons.1 member with rfl | behind
        · exact String.le_refl _
        · exact absurd ⟨other, behind, here⟩ later
      · exact absurd ⟨entry, behind, holds⟩ later

/-- Where no key occurs twice, a key looks up exactly the value that is bound to it. -/
theorem lookup_eq_some_iff_of_distinct (distinct : Distinct entries) {key : String} {value : α} :
    entries.lookup key = some value ↔ (key, value) ∈ entries := by
  constructor
  · intro found
    obtain ⟨before, after, rfl, _⟩ := List.lookup_eq_some_iff.1 found
    simp
  · intro member
    -- Induct over the entries, of which only one has the key.
    induction entries with
    | nil => cases member
    | cons head rest ih =>
      obtain ⟨first, others⟩ := List.pairwise_cons.1 distinct
      rcases List.mem_cons.1 member with rfl | later
      · exact List.lookup_cons_self
      · -- The keys behind the head differ from its own.
        have other : (key == head.1) = false := beq_eq_false_iff_ne.2 (first _ later).symm
        rw [List.lookup_cons, other]
        exact ih others later

/-- Keys that increase are distinct. -/
theorem Increasing.distinct (increasing : Increasing entries) : Distinct entries :=
  -- A key below another one differs from it.
  increasing.imp fun below => String.ne_of_lt below

/-- In ordered entries, a key looks up exactly the value that is bound to it. -/
theorem lookup_eq_some_iff (increasing : Increasing entries) {key : String} {value : α} :
    entries.lookup key = some value ↔ (key, value) ∈ entries :=
  lookup_eq_some_iff_of_distinct increasing.distinct

/-- In ordered entries, the value of an entry is what its key looks up. -/
theorem lookup_eq_some_of_mem (increasing : Increasing entries) {key : String} {value : α}
    (member : (key, value) ∈ entries) : entries.lookup key = some value :=
  (lookup_eq_some_iff increasing).2 member

/-- At most one entry is of the least key that is picked out. -/
theorem Least.unique (increasing : Increasing entries) {entry other : String × α}
    (least : Least entries picked entry) (again : Least entries picked other) : entry = other := by
  obtain ⟨member, picks, minimal⟩ := least
  obtain ⟨among, picks', minimal'⟩ := again
  have same : entry.1 = other.1 :=
    String.le_antisymm (minimal other among picks') (minimal' entry member picks)
  -- A key is bound to one value.
  have here := lookup_eq_some_of_mem increasing member
  rw [same, lookup_eq_some_of_mem increasing among] at here
  exact Prod.ext same (Option.some.inj here).symm

/-- The entry that is bound is there afterwards. -/
theorem mem_insert_self (key : String) (value : α) (entries : List (String × α)) :
    (key, value) ∈ insert key value entries := by
  -- The entry is put in front of the first greater key, or replaces its own.
  induction entries with
  | nil => exact List.mem_cons_self
  | cons head rest ih =>
    unfold insert
    split
    · exact List.mem_cons_self
    · split
      · exact List.mem_cons_self
      · exact List.mem_cons_of_mem _ ih

/-- An entry of another key stays. -/
theorem mem_insert_of_ne {key : String} {value : α} {entry : String × α} (member : entry ∈ entries)
    (other : entry.1 ≠ key) : entry ∈ insert key value entries := by
  -- Only an entry of the same key is replaced.
  induction entries with
  | nil => cases member
  | cons head rest ih =>
    unfold insert
    split
    · exact List.mem_cons_of_mem _ member
    · rcases List.mem_cons.1 member with rfl | later
      · rw [if_neg (Ne.symm other)]
        exact List.mem_cons_self
      · split
        · exact List.mem_cons_of_mem _ later
        · exact List.mem_cons_of_mem _ (ih later)

/-- Where no key occurs twice, nothing is overwritten. -/
theorem dropOverwritten_eq_self (distinct : Distinct entries) :
    dropOverwritten entries = entries := by
  -- Two neighbours of one key would make that key occur twice.
  fun_induction dropOverwritten entries with
  | case1 => rfl
  | case2 => rfl
  | case3 head next rest same =>
    exact absurd same ((List.pairwise_cons.1 distinct).1 next List.mem_cons_self)
  | case4 head next rest different ih => rw [ih (List.pairwise_cons.1 distinct).2]

/-- Where keys are kept, they still increase when entries are changed or left out. -/
theorem increasing_filterMap {β : Type} {f : String × α → Option (String × β)}
    (keeps : ∀ entry changed, f entry = some changed → changed.1 = entry.1)
    (increasing : Increasing entries) : Increasing (entries.filterMap f) := by
  -- Entries that are left out do not matter, and the others keep their keys.
  refine List.pairwise_filterMap.2 (increasing.imp fun below left first right second => ?_)
  rwa [keeps _ left first, keeps _ right second]

/-- What is left after sorting was there before. -/
theorem mem_of_mem_sort {entry : String × α} (kept : entry ∈ sort entries) : entry ∈ entries :=
  -- Sorting permutes the entries, and overwriting only removes some.
  List.mem_mergeSort.1 (mem_of_mem_dropOverwritten kept)

/-- Ordered entries stay as they are. -/
theorem sort_eq_self (increasing : Increasing entries) : sort entries = entries := by
  -- A sort leaves ordered entries where they are, and no key is overwritten.
  have ordered : entries.Pairwise fun left right => decide (left.1 ≤ right.1) = true :=
    increasing.imp fun below => decide_eq_true (le_of_lt below)
  rw [sort, List.mergeSort_of_pairwise ordered, dropOverwritten_eq_self increasing.distinct]

/-- Where no key occurs twice, sorting keeps every entry. -/
theorem mem_sort (distinct : Distinct entries) {entry : String × α} :
    entry ∈ sort entries ↔ entry ∈ entries := by
  -- Sorting permutes the entries, so their keys are still distinct.
  have permuted := (List.mergeSort_perm entries
    fun left right => decide (left.1 ≤ right.1)).symm.pairwise distinct (fun ne => Ne.symm ne)
  rw [sort, dropOverwritten_eq_self permuted, List.mem_mergeSort]

/-- Where no key occurs twice, sorting does not change what a key looks up. -/
theorem lookup_sort (distinct : Distinct entries) (key : String) :
    (sort entries).lookup key = entries.lookup key := by
  -- In both lists a key looks up the value that is bound to it, and the entries are the same.
  refine Option.ext fun value => ?_
  rw [lookup_eq_some_iff (increasing_sort entries), mem_sort distinct,
    lookup_eq_some_iff_of_distinct distinct]

/-- Entries have one order in which their keys increase. -/
theorem Increasing.eq_of_mem_iff {others : List (String × α)} (increasing : Increasing entries)
    (again : Increasing others) (same : ∀ entry, entry ∈ entries ↔ entry ∈ others) :
    entries = others := by
  have nodup : entries.Nodup := increasing.distinct.imp fun ne same => ne (congrArg Prod.fst same)
  have nodup' : others.Nodup := again.distinct.imp fun ne same => ne (congrArg Prod.fst same)
  -- No two entries are each in front of the other.
  refine List.Perm.eq_of_pairwise (fun left right _ _ below above => ?_) increasing again
    ((List.perm_ext_iff_of_nodup nodup nodup').2 same)
  exact absurd (String.lt_trans below above) (String.lt_irrefl _)

/-- Where no key occurs twice, values can be changed before or after sorting. -/
theorem sort_map {β : Type} (f : α → β) (distinct : Distinct entries) :
    sort (entries.map fun entry => (entry.1, f entry.2)) =
      (sort entries).map fun entry => (entry.1, f entry.2) := by
  -- The keys are the same before and after, so both lists are in order and have the same entries.
  have changed : Distinct (entries.map fun entry => (entry.1, f entry.2)) :=
    List.pairwise_map.2 distinct
  have increasing : Increasing ((sort entries).map fun entry => (entry.1, f entry.2)) :=
    List.pairwise_map.2 (increasing_sort entries)
  refine (increasing_sort _).eq_of_mem_iff increasing fun entry => ?_
  rw [mem_sort changed, List.mem_map, List.mem_map]
  exact exists_congr fun origin => and_congr_left fun _ => (mem_sort distinct).symm

end NamedParams.Entries
