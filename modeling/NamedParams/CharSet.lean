/-! Sets of characters as ranges of code points. -/

namespace NamedParams

/-- The code points from the first to the last, both included. -/
structure CodeRange where
  first : Nat
  last : Nat
  ordered : first ≤ last
  deriving DecidableEq

/-- One range ends in front of another, with a gap between them. -/
def CodeRange.Before (left right : CodeRange) : Prop := left.last + 1 < right.first

/-- A set of characters; its ranges are in order and no two of them touch. -/
structure CharSet where
  ranges : Array CodeRange
  apart : ranges.toList.Pairwise CodeRange.Before
  deriving DecidableEq

/-- The range of one code point. -/
def CodeRange.point (point : Nat) : CodeRange := ⟨point, point, Nat.le_refl point⟩

/-- The range from the start of one range to the end of it or of another one. -/
def CodeRange.join (range next : CodeRange) : CodeRange :=
  ⟨range.first, max range.last next.last,
    Nat.le_trans range.ordered (Nat.le_max_left range.last next.last)⟩

namespace CharSet

/-- The largest code point. -/
def maxCodePoint : Nat := 0x10FFFF

/-- The set without members. -/
def empty : CharSet := ⟨#[], List.Pairwise.nil⟩

/-- Joins ranges that touch; they are given in order of their first code points. -/
def joinTouching : List CodeRange → List CodeRange
  | [] => []
  | [range] => [range]
  | range :: next :: rest =>
    if next.first ≤ range.last + 1 then
      joinTouching (range.join next :: rest)
    else range :: joinTouching (next :: rest)
termination_by ranges => ranges.length

/-- No range that has been joined starts in front of the first one. -/
theorem first_le_of_mem_joinTouching {head joined : CodeRange} {rest : List CodeRange}
    (ordered : (head :: rest).Pairwise fun a b => a.first ≤ b.first)
    (member : joined ∈ joinTouching (head :: rest)) : head.first ≤ joined.first := by
  -- Induct along the joining: the first range keeps its start however many ranges it takes in.
  induction rest generalizing head with
  | nil =>
    rw [joinTouching, List.mem_singleton] at member
    exact member ▸ Nat.le_refl _
  | cons next rest ih =>
    obtain ⟨first, others⟩ := List.pairwise_cons.1 ordered
    rw [joinTouching] at member
    split at member
    · -- What is joined starts where the first range does.
      have behind : (head.join next).first ≤ joined.first :=
        ih (List.pairwise_cons.2 ⟨fun range later => first range (.tail _ later),
          (List.pairwise_cons.1 others).2⟩) member
      exact behind
    · rcases List.mem_cons.1 member with rfl | later
      · exact Nat.le_refl _
      · exact Nat.le_trans (first next (.head _)) (ih others later)

/-- What is left behind the joining does not touch. -/
theorem apart_joinTouching {ranges : List CodeRange}
    (ordered : ranges.Pairwise fun a b => a.first ≤ b.first) :
    (joinTouching ranges).Pairwise CodeRange.Before := by
  -- Follow the joining: ranges that are left apart have a gap between them.
  fun_induction joinTouching ranges with
  | case1 => exact List.Pairwise.nil
  | case2 range => exact List.pairwise_singleton _ _
  | case3 range next rest touching ih =>
    obtain ⟨first, others⟩ := List.pairwise_cons.1 ordered
    exact ih (List.pairwise_cons.2 ⟨fun range later => first range (.tail _ later),
      (List.pairwise_cons.1 others).2⟩)
  | case4 range next rest gap ih =>
    have others := (List.pairwise_cons.1 ordered).2
    refine List.pairwise_cons.2 ⟨fun later member => ?_, ih others⟩
    -- The next range starts behind the gap, and no later one starts in front of it.
    have behind := first_le_of_mem_joinTouching others member
    exact Nat.lt_of_lt_of_le (Nat.lt_of_not_le gap) behind

/-- Ranges in order of their first code points. -/
def inOrder (ranges : List CodeRange) : List CodeRange :=
  ranges.mergeSort fun a b => decide (a.first ≤ b.first)

/-- Ranges that have been sorted start one behind the other. -/
theorem ordered_inOrder (ranges : List CodeRange) :
    (inOrder ranges).Pairwise fun a b => a.first ≤ b.first := by
  -- The sort compares by a test, and the order is stated as what the test decides.
  have sorted := @List.pairwise_mergeSort _ (fun a b : CodeRange => decide (a.first ≤ b.first))
    (fun a b c ab bc => by simpa using Nat.le_trans (by simpa using ab) (by simpa using bc))
    (fun a b => by simpa using Nat.le_total a.first b.first) ranges
  exact sorted.imp fun le => by simpa using le

/-- The set of all code points of the given ranges. -/
def ofRanges (ranges : List CodeRange) : CharSet :=
  ⟨(joinTouching (inOrder ranges)).toArray, apart_joinTouching (ordered_inOrder ranges)⟩

/-- The characters from the first to the last. -/
def range (first last : Char) : CharSet :=
  if ordered : first.toNat ≤ last.toNat then
    ⟨#[⟨first.toNat, last.toNat, ordered⟩], List.pairwise_singleton _ _⟩
  else empty

/-- The set of one character. -/
def singleton (c : Char) : CharSet := range c c

/-- Searches the ranges between two indices for a code point. -/
def search (ranges : Array CodeRange) (point low high : Nat) : Bool :=
  if low < high then
    let middle := (low + high) / 2
    match ranges[middle]? with
    | none => false
    | some found =>
      if point < found.first then search ranges point low middle
      else if found.last < point then search ranges point (middle + 1) high
      else true
  else false
termination_by high - low

/-- Whether a code point is in the set. -/
def containsPoint (s : CharSet) (point : Nat) : Bool := search s.ranges point 0 s.ranges.size

/-- Whether a character is in the set. -/
def contains (s : CharSet) (c : Char) : Bool := s.containsPoint c.toNat

/-- The members of either set. -/
def union (s t : CharSet) : CharSet := ofRanges (s.ranges.toList ++ t.ranges.toList)

/-- The gaps between ranges, from a code point on. -/
def gaps (start : Nat) : List CodeRange → List CodeRange
  | [] => if inside : start ≤ maxCodePoint then [⟨start, maxCodePoint, inside⟩] else []
  | range :: rest =>
    if gap : start < range.first then
      ⟨start, range.first - 1, Nat.le_sub_one_of_lt gap⟩ :: gaps (range.last + 1) rest
    else gaps (range.last + 1) rest

/-- No gap starts in front of the code point from which gaps are looked for. -/
theorem le_first_of_mem_gaps {start : Nat} {ranges : List CodeRange} {gap : CodeRange}
    (apart : ranges.Pairwise CodeRange.Before) (behind : ∀ range ∈ ranges, start ≤ range.first)
    (member : gap ∈ gaps start ranges) : start ≤ gap.first := by
  -- Induct over the ranges: the first gap, if there is one, starts where the search does.
  induction ranges generalizing start with
  | nil =>
    unfold gaps at member
    split at member
    · rw [List.mem_singleton] at member
      exact member ▸ Nat.le_refl _
    · cases member
  | cons range rest ih =>
    obtain ⟨first, others⟩ := List.pairwise_cons.1 apart
    -- Further gaps are looked for behind the range, and so further behind than before.
    have later (among : gap ∈ gaps (range.last + 1) rest) : start ≤ gap.first := by
      have further := ih others (fun next inside => Nat.le_of_lt (first next inside)) among
      have start_le := behind range (.head _)
      have ordered := range.ordered
      omega
    unfold gaps at member
    split at member
    · rcases List.mem_cons.1 member with rfl | among
      · exact Nat.le_refl _
      · exact later among
    · exact later member

/-- Between two gaps there is a range, so they do not touch. -/
theorem apart_gaps {start : Nat} {ranges : List CodeRange}
    (apart : ranges.Pairwise CodeRange.Before) :
    (gaps start ranges).Pairwise CodeRange.Before := by
  -- Induct over the ranges: behind each of them the gaps go on.
  induction ranges generalizing start with
  | nil =>
    unfold gaps
    split
    · exact List.pairwise_singleton _ _
    · exact List.Pairwise.nil
  | cons range rest ih =>
    obtain ⟨first, others⟩ := List.pairwise_cons.1 apart
    unfold gaps
    split
    · refine List.pairwise_cons.2 ⟨fun next member => ?_, ih others⟩
      -- The range lies in front of the next gap.
      have further := le_first_of_mem_gaps others
        (fun next inside => Nat.le_of_lt (first next inside)) member
      have ordered := range.ordered
      unfold CodeRange.Before
      simp only
      omega
    · exact ih others

/-- The characters that are not in the set. -/
def complement (s : CharSet) : CharSet :=
  ⟨(gaps 0 s.ranges.toList).toArray, apart_gaps s.apart⟩

/-- The members of both sets. -/
def inter (s t : CharSet) : CharSet := (s.complement.union t.complement).complement

/-- The members of the first set that are not in the second. -/
def sdiff (s t : CharSet) : CharSet := s.inter t.complement

/-- The members of exactly one of the sets. -/
def symmDiff (s t : CharSet) : CharSet := (s.sdiff t).union (t.sdiff s)

/-- Whether all members are ASCII characters. -/
def isAscii (s : CharSet) : Bool := s.ranges.all fun range => decide (range.last < 128)

/-- The value of an upper-case hexadecimal digit. -/
def hexDigitValue (c : Char) : Nat :=
  if c.isDigit then c.toNat - 48 else c.toNat - 55

/-- Numbers read so far from a text of hexadecimal ranges. -/
private structure HexScan where
  done : List CodeRange
  first : Option Nat
  current : Option Nat

/-- Ends the number being read, and the range that it ends. -/
private def HexScan.close (scan : HexScan) : HexScan :=
  match scan.current with
  | none => scan
  | some last =>
    let first := scan.first.getD last
    ⟨if ordered : first ≤ last then ⟨first, last, ordered⟩ :: scan.done else scan.done, none, none⟩

/-- Takes one character of a text of hexadecimal ranges. -/
private def HexScan.step (scan : HexScan) (c : Char) : HexScan :=
  if c = '-' then ⟨scan.done, scan.current, none⟩
  else if c.isWhitespace then scan.close
  else { scan with current := some (scan.current.getD 0 * 16 + hexDigitValue c) }

/-- Ranges written as hexadecimal numbers such as `41-5A`, parted by blanks. -/
def hexRanges (text : String) : List CodeRange :=
  (text.toList.foldl HexScan.step ⟨[], none, none⟩).close.done.reverse

/-- The set of the ranges in a text. -/
def ofHex (text : String) : CharSet := ofRanges (hexRanges text)

end CharSet

end NamedParams
