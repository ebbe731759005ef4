import NamedParams.Regex.Expr

/-! Searching a text for a match, with sets of places held as the bits of numbers. -/

namespace NamedParams.Regex

/-- Sets of places between the characters of a text; place `i` is bit `i`. -/
abbrev Places := Nat

/-- The number whose bits are the given truth values, the first one lowest. -/
def placesOf : List Bool → Places
  | [] => 0
  | bit :: rest => 2 * placesOf rest + bit.toNat

/-- A text prepared for searching. -/
structure Subject where
  chars : List Char
  /-- Each character of the text with the places before it. -/
  occurrences : List (Char × Places)

/-- Prepares a text. -/
def Subject.ofText (text : String) : Subject :=
  let chars := text.toList
  ⟨chars, chars.eraseDups.map fun c => (c, placesOf (chars.map (· == c)))⟩

/-- The places before a character of a set. -/
def Subject.placesBefore (subject : Subject) (set : CharSet) : Places :=
  subject.occurrences.foldl
    (fun places (c, here) => if set.contains c then places ||| here else places) 0

/-- Whether a condition holds at each place from the given character on. -/
def lookBits (look : Look) : Option Char → List Char → List Bool
  | before, [] => [look.holds before none]
  | before, c :: rest => look.holds before (some c) :: lookBits look (some c) rest

/-- The places where a condition holds. -/
def Subject.placesWhere (subject : Subject) (look : Look) : Places :=
  placesOf (lookBits look none subject.chars)

/-- All places of a text. -/
def Subject.allPlaces (subject : Subject) : Places := (1 <<< (subject.chars.length + 1)) - 1

/-- An expression with the places of one text at which its parts apply. -/
inductive Search where
  | empty
  /-- Moves on by one character from some places. -/
  | advance (places : Thunk Places)
  /-- Stays at some places. -/
  | stay (places : Thunk Places)
  | concat (first second : Search)
  | either (left right : Search)
  | repetition (least : Nat) (most : Option Nat) (body : Search)

/-- The expression as it applies to a text. -/
def Expr.search (subject : Subject) : Expr → Search
  | .empty => .empty
  | .set s => .advance (Thunk.mk fun _ => subject.placesBefore s)
  | .look l => .stay (Thunk.mk fun _ => subject.placesWhere l)
  | .concat first second => .concat (first.search subject) (second.search subject)
  | .either left right => .either (left.search subject) (right.search subject)
  | .repetition least most body => .repetition least most (body.search subject)
  | .capture body => body.search subject

/-- Applies a step a number of times, or until the places stay the same. -/
def iterate (step : Places → Places) : Nat → Places → Places
  | 0, places => places
  | count + 1, places =>
    let next := step places
    if next = places then places else iterate step count next

/-- All places reached by at most a number of steps; `fresh` are the ones reached last. -/
def closure (step : Places → Places) : Nat → Places → Places → Places
  | 0, reached, _ => reached
  | count + 1, reached, fresh =>
    let next := step fresh
    let more := reached ||| next
    if more = reached then reached else closure step count more (more ^^^ reached)

/-- The places where a match ends that starts at one of the given places. -/
def Search.ends (length : Nat) : Search → Places → Places
  | .empty, places => places
  | .advance allowed, places => if places = 0 then 0 else (places &&& allowed.get) <<< 1
  | .stay allowed, places => if places = 0 then 0 else places &&& allowed.get
  | .concat first second, places =>
    let middle := first.ends length places
    if middle = 0 then 0 else second.ends length middle
  | .either left right, places => left.ends length places ||| right.ends length places
  | .repetition least most body, places =>
    let start := iterate (body.ends length) least places
    -- Every step that adds something adds a place, so the length bounds unlimited steps.
    let steps := match most with
      | none => length + 1
      | some most => most - least
    closure (body.ends length) steps start start

/-- Whether an expression matches somewhere in a text. -/
def Expr.matches (e : Expr) (text : String) : Bool :=
  let subject := Subject.ofText text
  (e.search subject).ends subject.chars.length subject.allPlaces != 0

end NamedParams.Regex
