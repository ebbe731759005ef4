import NamedParams.CharSet

/-! The byte sequences of UTF-8 that encode the characters of a set. -/

namespace NamedParams.Unicode.Utf8

/-- The bytes from the first to the last, both included. -/
structure ByteRange where
  first : Nat
  last : Nat
  deriving DecidableEq

/-- One byte of each range, one behind the other. -/
abbrev ByteSequence := List ByteRange

/--
The sequences of a leading byte and some more bytes that write the numbers from first to last.

A leading byte is its number on top of `lead`, and each byte behind it holds six bits.
-/
def spread : Nat → Nat → Nat → Nat → List ByteSequence
  | 0, lead, first, last => [[⟨lead + first, lead + last⟩]]
  | count + 1, lead, first, last =>
    let block := 64 ^ (count + 1)
    let lowest := first / block
    let highest := last / block
    let within (start stop low high : Nat) : List ByteSequence :=
      (spread count 0x80 low high).map (⟨lead + start, lead + stop⟩ :: ·)
    if lowest = highest then within lowest highest (first % block) (last % block)
    else
      -- A block that is covered in part stands by itself; all blocks between share their bytes.
      let partLow := first % block != 0
      let partHigh := last % block != block - 1
      let start := lowest + partLow.toNat
      let count := highest + 1 - partHigh.toNat - start
      (if partLow then within lowest lowest (first % block) (block - 1) else []) ++
        (if count = 0 then [] else within start (start + count - 1) 0 (block - 1)) ++
        (if partHigh then within highest highest 0 (last % block) else [])

/-- Code points whose encodings are equally long. -/
structure Length where
  /-- The number of bytes behind the leading one. -/
  behind : Nat
  lead : Nat
  points : CodeRange

/-- The lengths of encodings; the gap among three bytes is that of the surrogates. -/
def lengths : List Length := [
  ⟨0, 0, ⟨0, 0x7F, by decide⟩⟩,
  ⟨1, 0xC0, ⟨0x80, 0x7FF, by decide⟩⟩,
  ⟨2, 0xE0, ⟨0x800, 0xD7FF, by decide⟩⟩,
  ⟨2, 0xE0, ⟨0xE000, 0xFFFF, by decide⟩⟩,
  ⟨3, 0xF0, ⟨0x10000, CharSet.maxCodePoint, by decide⟩⟩]

/-- The sequences that encode the code points of a range, in order. -/
def ofRange (range : CodeRange) : List ByteSequence :=
  lengths.flatMap fun length =>
    let first := max range.first length.points.first
    let last := min range.last length.points.last
    if first ≤ last then spread length.behind length.lead first last else []

/-- The sequences that encode the members of a set, in order. -/
def ofSet (s : CharSet) : List ByteSequence := s.ranges.toList.flatMap ofRange

/-- The bytes that encode a character. -/
def bytesOf (c : Char) : List Nat := (String.singleton c).toUTF8.toList.map UInt8.toNat

end NamedParams.Unicode.Utf8
