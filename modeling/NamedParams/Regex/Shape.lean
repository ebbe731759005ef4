import NamedParams.Regex.Expr

/-! The simplified form of an expression, from which its automaton is built. -/

namespace NamedParams.Regex

/-- An expression whose neighbouring characters and alternatives are joined where they can be. -/
inductive Shape where
  /-- Characters one behind the other. -/
  | literal (text : List Char)
  | set (members : CharSet)
  | look (condition : Look)
  /-- Parts one behind the other; without a part it matches the empty text. -/
  | concat (parts : List Shape)
  | alternation (branches : List Shape)
  | repetition (least : Nat) (most : Option Nat) (body : Shape)
  | capture (body : Shape)

namespace Shape

mutual

/-- Whether two shapes are equal. -/
def same : Shape → Shape → Bool
  | .literal a, .literal b => a == b
  | .set s, .set t => s = t
  | .look l, .look m => l = m
  | .concat a, .concat b => sameAll a b
  | .alternation a, .alternation b => sameAll a b
  | .repetition least most body, .repetition least₂ most₂ body₂ =>
    least = least₂ && most = most₂ && same body body₂
  | .capture a, .capture b => same a b
  | _, _ => false

/-- Whether two lists hold equal shapes. -/
def sameAll : List Shape → List Shape → Bool
  | [], [] => true
  | a :: rest, b :: rest₂ => same a b && sameAll rest rest₂
  | _, _ => false

end

/-- The shape of one character of a set. -/
def ofSet (s : CharSet) : Shape :=
  match s.ranges.toList with
  | [range] => if range.first = range.last then .literal [Char.ofNat range.first] else .set s
  | _ => .set s

/-- The characters of which a shape matches exactly one. -/
def members? : Shape → Option CharSet
  | .set s => some s
  | .literal [c] => some (.singleton c)
  | _ => none

/-- The text that a shape matches and nothing else. -/
def text? : Shape → Option (List Char)
  | .literal text => some text
  | _ => none

/-- The parts that a shape matches one behind the other. -/
def parts : Shape → List Shape
  | .concat parts => parts
  | shape => [shape]

/-- Whether a shape has parts, or none at all. -/
def isConcat : Shape → Bool
  | .concat _ => true
  | _ => false

/-- The shape of parts one behind the other. -/
def ofParts : List Shape → Shape
  | [part] => part
  | parts => .concat parts

/-- Puts parts behind others, as one text where characters meet. -/
def joinParts : List Shape → List Shape → List Shape
  | [], behind => behind
  | [.literal text], .literal more :: behind => .literal (text ++ more) :: behind
  | part :: rest, behind => part :: joinParts rest behind

/-- One shape behind another. -/
def append (first second : Shape) : Shape := ofParts (joinParts first.parts second.parts)

/-- The number of parts that two lists have in common at their start. -/
def commonLength : List Shape → List Shape → Nat
  | a :: rest, b :: rest₂ => if same a b then commonLength rest rest₂ + 1 else 0
  | _, _ => 0

/-- The number of parts with which all of several alternatives start. -/
def sharedLength : List Shape → Nat
  | [] => 0
  | first :: rest =>
    if first.isConcat && rest.all isConcat then
      rest.foldl (fun length branch => min length (commonLength first.parts branch.parts))
        first.parts.length
    else 0

/-- Alternatives, as one set where each of them is a single character. -/
def joinBranches (branches : List Shape) : Shape :=
  match branches.mapM members? with
  | some sets => ofSet (CharSet.ofRanges (sets.flatMap fun s => s.ranges.toList))
  | none => .alternation branches

/-- The shape of alternatives, with the parts that all of them start with in front. -/
def ofBranches : List Shape → Shape
  | [] => .alternation []
  | [branch] => branch
  | first :: rest =>
    let shared := sharedLength (first :: rest)
    if shared = 0 then joinBranches (first :: rest)
    else
      let behind := (first :: rest).map fun branch => ofParts (branch.parts.drop shared)
      (ofParts (first.parts.take shared)).append (joinBranches behind)

mutual

/-- Whether a shape can match without taking a character. -/
def canBeEmpty : Shape → Bool
  | .literal _ | .set _ => false
  | .look _ => true
  | .concat parts => allCanBeEmpty parts
  | .alternation branches => anyCanBeEmpty branches
  | .repetition least _ body => least = 0 || body.canBeEmpty
  | .capture body => body.canBeEmpty

/-- Whether every one of some shapes can match without taking a character. -/
def allCanBeEmpty : List Shape → Bool
  | [] => true
  | shape :: rest => shape.canBeEmpty && allCanBeEmpty rest

/-- Whether one of some shapes can match without taking a character. -/
def anyCanBeEmpty : List Shape → Bool
  | [] => false
  | shape :: rest => shape.canBeEmpty || anyCanBeEmpty rest

end

end Shape

/-- The alternatives that an expression consists of. -/
def Expr.branches : Expr → List Shape
  | .empty => [.concat []]
  | .set s => [.ofSet s]
  | .look condition => [.look condition]
  | .capture body => [.capture (.ofBranches body.branches)]
  | .concat first second =>
    [(Shape.ofBranches first.branches).append (.ofBranches second.branches)]
  | .either left right => left.branches ++ right.branches
  | .repetition least most body =>
    if most = some 0 then [.concat []]
    else if least = 1 && most = some 1 then body.branches
    else [.repetition least most (.ofBranches body.branches)]

/-- The shape of an expression. -/
def Expr.shape (e : Expr) : Shape := .ofBranches e.branches

end NamedParams.Regex
