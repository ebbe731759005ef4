import NamedParams.Regex.Fault
import NamedParams.Regex.Shape
import NamedParams.Unicode.Utf8

/-! The memory of the automata that an expression is compiled to. -/

namespace NamedParams.Regex

open Unicode.Utf8 (ByteRange ByteSequence)

/-- The direction in which an automaton reads a text. -/
inductive Direction where
  | forward
  | backward
  deriving DecidableEq

/-- The bytes that one state of an automaton takes. -/
def stateBytes : Nat := 32

/-- The bytes of a way out of a state that depends on the next byte of the text. -/
def transitionBytes : Nat := 8

/-- The bytes of a way out of a state that takes no byte of the text. -/
def jumpBytes : Nat := 4

/-- The bytes of a state that is left by some jumps. -/
def forkBytes (jumps : Nat) : Nat := stateBytes + jumpBytes * jumps

/-- Joins neighbouring sequences that start alike; each start comes with what is behind it. -/
def groupByStart : List ByteSequence → List (ByteRange × List ByteSequence)
  | [] => []
  | [] :: rest => groupByStart rest
  | (start :: behind) :: rest =>
    match groupByStart rest with
    | (next, others) :: groups =>
      if start = next then (start, behind :: others) :: groups
      else (start, [behind]) :: (next, others) :: groups
    | [] => [(start, [behind])]

/-- What remains to be read at each state, for sequences up to a length. -/
def remainders : Nat → List ByteSequence → List (List ByteSequence)
  | 0, _ => []
  | length + 1, sequences =>
    let groups := groupByStart sequences
    if groups.isEmpty then [] else sequences :: groups.flatMap fun group => remainders length group.2

/-- The number of ranges with which a sequence starts like another. -/
def commonRanges : ByteSequence → ByteSequence → Nat
  | a :: rest, b :: rest₂ => if a = b then commonRanges rest rest₂ + 1 else 0
  | _, _ => 0

/-- The number of states that sequences take which share their starts with their neighbours. -/
def sharedStates : List ByteSequence → Nat
  | [] => 0
  | [sequence] => sequence.length
  | sequence :: next :: rest =>
    sequence.length - commonRanges sequence next + sharedStates (next :: rest)

/-- The bytes of the states that read one character of a set. -/
def setBytes (direction : Direction) (s : CharSet) : Nat :=
  if s.isAscii then 2 * stateBytes + transitionBytes * s.ranges.size
  else
    let sequences := Unicode.Utf8.ofSet s
    match direction with
    | .forward =>
      -- States where the same remains to be read are one state.
      let states := (remainders 4 sequences).eraseDups
      states.foldl (fun bytes sequences =>
        bytes + (stateBytes + transitionBytes * (groupByStart sequences).length)) stateBytes
    | .backward =>
      -- Every sequence is entered from one fork and read from its end.
      forkBytes sequences.length + stateBytes + stateBytes * sharedStates sequences

/-- The bytes of the states that read one of some words, up to a length of the words. -/
def wordBytes : Nat → List (List Nat) → Nat
  | 0, _ => 0
  | length + 1, words =>
    let heads := (words.filterMap List.head?).eraseDups
    if heads.isEmpty then 0
    else
      let ends := words.any List.isEmpty
      let choice := if heads.length = 1 then stateBytes
        else stateBytes + transitionBytes * heads.length
      let behind := heads.map fun head =>
        wordBytes length (words.filterMap fun word =>
          if word.head? = some head then some word.tail else none)
      choice + forkBytes (1 + ends.toNat) + behind.sum

/-- The bytes of the states that read one of some texts. -/
def textsBytes (direction : Direction) (texts : List (List Char)) : Nat :=
  let encoded := texts.map fun text => text.flatMap Unicode.Utf8.bytesOf
  let words := match direction with
    | .forward => encoded
    | .backward => encoded.map List.reverse
  stateBytes + wordBytes (words.foldl (fun length word => max length word.length) 0) words

/-- The bytes of a repetition whose body takes some bytes. -/
def repetitionBytes (least : Nat) (most : Option Nat) (canBeEmpty : Bool) (body : Nat) : Nat :=
  let step := forkBytes 2 + body
  match least, most with
  | 0, none => if canBeEmpty then step + forkBytes 2 + stateBytes else step
  | least, none => (least - 1) * body + step
  | 0, some 1 => step + stateBytes
  | least, some most =>
    let exact := if least = 0 then stateBytes else least * body
    if least = most then exact else exact + stateBytes + (most - least) * step

namespace Shape

mutual

/-- The bytes of the states of a shape; sums end once they pass the limit. -/
def bytes (direction : Direction) (limit : Nat) : Shape → Nat
  | .literal text => stateBytes * (text.flatMap Unicode.Utf8.bytesOf).length
  | .set s => setBytes direction s
  | .look _ => stateBytes
  | .concat [] => stateBytes
  | .concat (part :: parts) => bytesOfAll direction limit 0 (part :: parts)
  | .alternation branches =>
    match branches.mapM text? with
    | some texts => textsBytes direction texts
    | none =>
      bytesOfAll direction limit (forkBytes branches.length + stateBytes) branches
  | .repetition least most body =>
    repetitionBytes least most body.canBeEmpty (body.bytes direction limit)
  | .capture body =>
    -- Only reading forward marks where a group starts and ends.
    let marks := if direction = .forward then 2 * stateBytes else 0
    marks + body.bytes direction limit

/-- Adds the bytes of shapes to a sum, which ends once it passes the limit. -/
def bytesOfAll (direction : Direction) (limit sum : Nat) : List Shape → Nat
  | [] => sum
  | shape :: rest =>
    if limit < sum then sum else bytesOfAll direction limit (sum + shape.bytes direction limit) rest

end

/-- The bytes around an automaton: it starts anywhere, remembers the match and ends. -/
def frameBytes : Nat := forkBytes 2 + 2 * stateBytes + transitionBytes + 3 * stateBytes

/-- Whether one of the automata of a shape takes more memory than a limit. -/
def isLargerThan (shape : Shape) (limit : Nat) : Bool :=
  [Direction.forward, .backward].any fun direction =>
    limit < frameBytes + shape.bytes direction limit

end Shape

/-- Refuses an expression whose automata would take too much memory. -/
def Expr.limit (limit : Nat) (e : Expr) : Except Fault Expr :=
  if e.shape.isLargerThan limit then .error (.tooLarge limit) else .ok e

end NamedParams.Regex
