import NamedParams.Unicode.Folding

/-! The members of sets of characters: what a search finds, and what each operation keeps. -/

namespace NamedParams

/-- A code point lies in a range. -/
def CodeRange.Covers (range : CodeRange) (point : Nat) : Prop :=
  range.first ≤ point ∧ point ≤ range.last

namespace CharSet

variable {s t : CharSet} {point : Nat} {ranges : List CodeRange}

/-- One of some ranges covers a code point. -/
def Covered (ranges : List CodeRange) (point : Nat) : Prop :=
  ∃ range ∈ ranges, range.Covers point

/-- One more range covers what it covers itself. -/
theorem covered_cons (range : CodeRange) :
    Covered (range :: ranges) point ↔ range.Covers point ∨ Covered ranges point := by
  -- The range is either the first one or one of the others.
  simp [Covered]

/-- Of two ranges of a set, the one with the smaller index comes first. -/
theorem before_of_lt {ranges : Array CodeRange} (apart : ranges.toList.Pairwise CodeRange.Before)
    {i j : Nat} (less : i < j) (inside : j < ranges.size) :
    ranges[i].last + 1 < ranges[j].first := by
  -- The ranges of a set come before one another pairwise.
  have length : ranges.toList.length = ranges.size := Array.length_toList
  exact List.pairwise_iff_getElem.1 apart i j (by omega) (by omega) less

/-- A search finds a code point exactly if a range between its two indices covers it. -/
theorem search_iff {ranges : Array CodeRange} (apart : ranges.toList.Pairwise CodeRange.Before)
    {low high : Nat} (fits : high ≤ ranges.size) :
    search ranges point low high = true ↔
      ∃ i, ∃ inside : i < ranges.size, low ≤ i ∧ i < high ∧ ranges[i].Covers point := by
  -- Induct along the search: each half that is left out has no range that covers the point.
  fun_induction search ranges point low high with
  | case1 low high room middle none =>
    -- The middle index lies between the two, so there is a range.
    have inside : middle < ranges.size := by omega
    rw [Array.getElem?_eq_getElem inside] at none
    cases none
  | case2 low high room middle found at_middle short ih =>
    obtain ⟨inside, rfl⟩ := Array.getElem?_eq_some_iff.1 at_middle
    rw [ih (by omega)]
    refine exists_congr fun i => exists_congr fun within => ?_
    refine ⟨fun ⟨above, below, covers⟩ => ⟨above, by omega, covers⟩,
      fun ⟨above, below, covers⟩ => ⟨above, Nat.lt_of_not_le fun behind => ?_, covers⟩⟩
    -- The middle range starts behind the point, and so do all behind it.
    rcases Nat.lt_or_eq_of_le behind with behind | rfl
    · have apart := before_of_lt apart behind within
      have ordered := ranges[middle].ordered
      have starts := covers.1
      omega
    · exact absurd covers.1 (Nat.not_le.2 short)
  | case3 low high room middle found at_middle _ past ih =>
    obtain ⟨inside, rfl⟩ := Array.getElem?_eq_some_iff.1 at_middle
    rw [ih fits]
    refine exists_congr fun i => exists_congr fun within => ?_
    refine ⟨fun ⟨above, below, covers⟩ => ⟨by omega, below, covers⟩,
      fun ⟨above, below, covers⟩ => ⟨Nat.lt_of_not_le fun ahead => ?_, below, covers⟩⟩
    -- The middle range ends in front of the point, and so do all in front of it.
    rcases Nat.lt_or_eq_of_le ahead with ahead | rfl
    · have apart := before_of_lt apart ahead inside
      have ordered := ranges[middle].ordered
      have ends := covers.2
      omega
    · exact absurd covers.2 (Nat.not_le.2 past)
  | case4 low high room middle found at_middle starts ends =>
    obtain ⟨inside, rfl⟩ := Array.getElem?_eq_some_iff.1 at_middle
    exact iff_of_true rfl
      ⟨middle, inside, by omega, by omega, Nat.le_of_not_lt starts, Nat.le_of_not_lt ends⟩
  | case5 low high empty =>
    exact iff_of_false Bool.false_ne_true fun ⟨_, _, above, below, _⟩ => empty (by omega)

/-- A code point is in a set exactly if one of the ranges covers it. -/
theorem containsPoint_iff : s.containsPoint point = true ↔ Covered s.ranges.toList point := by
  -- The search starts with all indices, so that it misses no range.
  rw [containsPoint, search_iff s.apart (Nat.le_refl _)]
  constructor
  · rintro ⟨i, inside, _, _, covers⟩
    exact ⟨_, Array.mem_toList_iff.2 (Array.getElem_mem inside), covers⟩
  · rintro ⟨range, member, covers⟩
    obtain ⟨i, inside, rfl⟩ := Array.mem_iff_getElem.1 (Array.mem_toList_iff.1 member)
    exact ⟨i, inside, Nat.zero_le i, inside, covers⟩

/-- Joining ranges that touch neither adds a code point nor loses one. -/
theorem covered_joinTouching (ordered : ranges.Pairwise fun a b => a.first ≤ b.first) :
    Covered (joinTouching ranges) point ↔ Covered ranges point := by
  -- Follow the joining: two ranges become one, or the first is left as it is.
  fun_induction joinTouching ranges with
  | case1 => rfl
  | case2 range => rfl
  | case3 range next rest touching ih =>
    obtain ⟨first, others⟩ := List.pairwise_cons.1 ordered
    have joined : (range.join next).Covers point ↔ range.Covers point ∨ next.Covers point := by
      -- The next range starts within the first one or right behind it.
      have starts := first next (.head _)
      have ends := next.ordered
      simp only [CodeRange.Covers, CodeRange.join]
      omega
    rw [ih (List.pairwise_cons.2 ⟨fun later member => first later (.tail _ member),
      (List.pairwise_cons.1 others).2⟩), covered_cons, covered_cons, covered_cons, joined, or_assoc]
  | case4 range next rest gap ih =>
    rw [covered_cons, ih (List.pairwise_cons.1 ordered).2, covered_cons range]

/-- A set of ranges has the code points that the ranges cover. -/
theorem containsPoint_ofRanges :
    (ofRanges ranges).containsPoint point = true ↔ Covered ranges point := by
  rw [containsPoint_iff, ofRanges, covered_joinTouching (ordered_inOrder ranges)]
  -- The order of the ranges does not matter.
  exact exists_congr fun range => and_congr_left' (List.mergeSort_perm _ _).mem_iff

/-- The set without members has none. -/
@[simp] theorem containsPoint_empty : empty.containsPoint point = false := by
  -- There is no range that could cover the point.
  rw [Bool.eq_false_iff, ne_eq, containsPoint_iff]
  rintro ⟨_, member, _⟩
  cases member

/-- A set of characters in a row has the characters between its two ends. -/
theorem contains_range {first last c : Char} :
    (range first last).contains c = true ↔ first ≤ c ∧ c ≤ last := by
  -- Characters are ordered by their code points.
  have points {a b : Char} : a ≤ b ↔ a.toNat ≤ b.toNat := UInt32.le_iff_toNat_le
  rw [contains, range, points, points]
  split
  · rw [containsPoint_iff]
    simp [Covered, CodeRange.Covers]
  · rename_i reversed
    -- No character lies between ends that are reversed.
    rw [containsPoint_empty]
    exact iff_of_false Bool.false_ne_true fun within =>
      reversed (Nat.le_trans within.1 within.2)

/-- A set of one character has that character only. -/
theorem contains_singleton {c d : Char} : (singleton c).contains d = true ↔ d = c := by
  -- Between two equal ends lies one character.
  rw [singleton, contains_range]
  refine ⟨fun ⟨above, below⟩ => Char.le_antisymm below above, ?_⟩
  rintro rfl
  exact ⟨Char.le_refl _, Char.le_refl _⟩

/-- A union has the members of both sets. -/
theorem containsPoint_union :
    (s.union t).containsPoint point = (s.containsPoint point || t.containsPoint point) := by
  -- A range of the union is one of either set.
  rw [Bool.eq_iff_iff, Bool.or_eq_true, union, containsPoint_ofRanges, containsPoint_iff,
    containsPoint_iff]
  simp only [Covered, List.mem_append, or_and_right, exists_or]

/-- In front of a range there is a gap from the start on, perhaps an empty one. -/
theorem covered_gaps_cons {start : Nat} (range : CodeRange) :
    Covered (gaps start (range :: ranges)) point ↔
      start ≤ point ∧ point < range.first ∨ Covered (gaps (range.last + 1) ranges) point := by
  rw [gaps]
  split
  · rename_i room
    -- The gap ends right in front of the range.
    have gap : CodeRange.Covers ⟨start, range.first - 1, Nat.le_sub_one_of_lt room⟩ point ↔
        start ≤ point ∧ point < range.first := by
      simp only [CodeRange.Covers]
      omega
    rw [covered_cons, gap]
  · have empty : ¬ (start ≤ point ∧ point < range.first) := by omega
    rw [or_iff_right empty]

/-- The gaps from a code point on cover what is behind it and in none of the ranges. -/
theorem covered_gaps {start : Nat} (apart : ranges.Pairwise CodeRange.Before)
    (behind : ∀ range ∈ ranges, start ≤ range.first) (inside : point ≤ maxCodePoint) :
    Covered (gaps start ranges) point ↔ start ≤ point ∧ ¬ Covered ranges point := by
  -- Induct over the ranges: behind the first one the gaps are those of the others.
  induction ranges generalizing start with
  | nil =>
    unfold gaps
    split
    · simp [Covered, CodeRange.Covers, inside]
    · -- From beyond the last code point on there is no gap.
      rename_i beyond
      have nothing : ¬ start ≤ point := by omega
      simp [Covered, nothing]
  | cons range rest ih =>
    obtain ⟨first, others⟩ := List.pairwise_cons.1 apart
    have further : Covered (gaps (range.last + 1) rest) point ↔
        range.last + 1 ≤ point ∧ ¬ Covered rest point :=
      ih others fun next member => Nat.le_of_lt (first next member)
    -- What a later range covers lies behind the first one.
    have later : Covered rest point → range.last < point := by
      rintro ⟨next, member, starts, _⟩
      have apart := first next member
      unfold CodeRange.Before at apart
      omega
    have starts := behind range (.head _)
    have ordered := range.ordered
    rw [covered_gaps_cons, further, covered_cons, CodeRange.Covers]
    by_cases covered : Covered rest point
    · have past := later covered
      simp only [covered, not_true_eq_false, and_false, or_false, or_true, iff_false]
      omega
    · simp only [covered, not_false_eq_true, and_true, or_false]
      omega

/-- A complement has exactly the other code points. -/
theorem containsPoint_complement (inside : point ≤ maxCodePoint) :
    s.complement.containsPoint point = !s.containsPoint point := by
  -- The gaps start at zero and end at the last code point, so they cover all that is left.
  rw [Bool.eq_iff_iff, Bool.not_eq_true', Bool.eq_false_iff, ne_eq, containsPoint_iff,
    containsPoint_iff, complement]
  exact (covered_gaps s.apart (fun _ _ => Nat.zero_le _) inside).trans
    (and_iff_right (Nat.zero_le point))

/-- No character has a code point beyond the largest one. -/
theorem toNat_le_maxCodePoint (c : Char) : c.toNat ≤ maxCodePoint := by
  -- A character is no surrogate and lies below the end of the last plane.
  have valid := c.valid
  unfold UInt32.isValidChar Nat.isValidChar at valid
  unfold Char.toNat maxCodePoint
  omega

variable {c : Char}

/-- A union has the characters of both sets. -/
@[simp] theorem contains_union : (s.union t).contains c = (s.contains c || t.contains c) :=
  containsPoint_union

/-- A complement has the characters that the set has not. -/
@[simp] theorem contains_complement : s.complement.contains c = !s.contains c :=
  containsPoint_complement (toNat_le_maxCodePoint c)

/-- An intersection has the characters that are in both sets. -/
@[simp] theorem contains_inter : (s.inter t).contains c = (s.contains c && t.contains c) := by
  -- A character is in both sets exactly if it is in neither complement.
  simp [inter]

/-- A difference has the characters that are in the first set only. -/
@[simp] theorem contains_sdiff : (s.sdiff t).contains c = (s.contains c && !t.contains c) := by
  -- A difference leaves what the complement of the second set has.
  simp [sdiff]

/-- A symmetric difference has the characters that are in exactly one of the sets. -/
@[simp] theorem contains_symmDiff : (s.symmDiff t).contains c = (s.contains c ^^ t.contains c) := by
  rw [symmDiff, contains_union, contains_sdiff, contains_sdiff]
  -- Of four cases, two have exactly one set with the character.
  cases s.contains c <;> cases t.contains c <;> rfl

/-- A set is one of ASCII characters exactly if all its code points are. -/
theorem isAscii_iff : s.isAscii = true ↔ ∀ point, s.containsPoint point = true → point < 128 := by
  -- What is compared is the last code point of each range.
  simp only [isAscii, Array.all_eq_true_iff_forall_mem, decide_eq_true_iff, containsPoint_iff]
  constructor
  · rintro ascii point ⟨range, member, _, ends⟩
    exact Nat.lt_of_le_of_lt ends (ascii range (Array.mem_toList_iff.1 member))
  · intro ascii range member
    -- The last code point of a range is one of the set.
    exact ascii range.last ⟨range, Array.mem_toList_iff.2 member, range.ordered, Nat.le_refl _⟩

/-- Where case does not count, a set also has what is folded together with one of its members. -/
theorem containsPoint_foldCase :
    s.foldCase.containsPoint point = true ↔ s.containsPoint point = true ∨
      ∃ group ∈ Unicode.foldingGroups, point ∈ group ∧
        ∃ other ∈ group, s.containsPoint other = true := by
  -- The groups that are looked at are those with a member of the set.
  have among : (∃ group ∈ Unicode.foldingGroups.filter fun group => group.any s.containsPoint,
      point ∈ group) ↔ ∃ group ∈ Unicode.foldingGroups, point ∈ group ∧
        ∃ other ∈ group, s.containsPoint other = true := by
    simp only [List.mem_filter, List.any_eq_true]
    refine exists_congr fun group => ?_
    rw [and_assoc, and_comm (b := point ∈ group)]
  rw [← among, foldCase]
  generalize Unicode.foldingGroups.filter (fun group => group.any s.containsPoint) = touched
  split
  · rename_i none
    -- No group is touched, and the set stays as it is.
    rw [List.isEmpty_iff.1 none]
    simp
  · -- Each member of such a group becomes a range of its own.
    have point_covers {other : Nat} : (CodeRange.point other).Covers point ↔ point = other := by
      simp only [CodeRange.Covers, CodeRange.point]
      omega
    rw [containsPoint_ofRanges, containsPoint_iff]
    simp only [Covered, List.mem_append, or_and_right, exists_or, List.mem_map, List.mem_flatten]
    refine or_congr_right ⟨?_, ?_⟩
    · rintro ⟨_, ⟨other, ⟨group, member, inside⟩, rfl⟩, covers⟩
      exact ⟨group, member, point_covers.1 covers ▸ inside⟩
    · rintro ⟨group, member, inside⟩
      exact ⟨_, ⟨point, ⟨group, member, inside⟩, rfl⟩, point_covers.2 rfl⟩

end CharSet

end NamedParams
