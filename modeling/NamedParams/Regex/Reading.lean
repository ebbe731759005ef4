import NamedParams.Regex.Fault
import NamedParams.Regex.Posix

/-! Reading a regular expression, one character after the other. -/

namespace NamedParams.Regex

/-- The largest count of a repetition. -/
def countLimit : Nat := 0xFFFFFFFF

/-- Where an atom that is being read belongs. -/
inductive Place where
  /-- An item outside of classes. -/
  | item
  /-- A member of a class, or the first end of a range. -/
  | member
  /-- The second end of a range. -/
  | rangeEnd (first : Atom)

/-- How much of the start of a class has been read. -/
inductive Opening where
  | bracket
  | negated
  /-- Hyphens that stand for themselves. -/
  | hyphens
  deriving DecidableEq

/-- The digits of a count, and whether a blank has ended them. -/
structure CountScan where
  digits : Option Nat
  ended : Bool

/-- The flags read so far behind an opening parenthesis. -/
structure FlagScan where
  change : FlagChange
  negated : Bool
  /-- Nothing follows the hyphen yet. -/
  dangling : Bool

/-- What the next character means. -/
inductive Mode where
  | items
  /-- A counted repetition has ended, and a question mark belongs to it. -/
  | counted
  | countLeast (scan : CountScan)
  | countComma (least : Except Fault Nat)
  | countMost (least : Nat) (scan : CountScan)
  | groupOpen
  | groupQuestion
  | groupAngle
  | groupLetter
  | groupName (reversed : List Char)
  | flags (scan : FlagScan)
  | escape (place : Place)
  | hexOpen (place : Place) (digits : Nat)
  | hexDigits (place : Place) (byteForm : Bool) (missing value : Nat)
  | hexBrace (place : Place) (value : Option Nat)
  | propertyOpen (place : Place) (negated : Bool)
  | propertyName (place : Place) (negated : Bool) (reversed : List Char)
  | wordBrace (place : Place)
  | wordName (place : Place) (reversed : List Char)
  | classOpen (opening : Opening)
  | classBody
  | afterMember (first : Atom)
  | rangeEnd (first : Atom)

/-- What lies between a hyphen and the next character, where blanks are ignored. -/
inductive Gap where
  | nothing
  | blanks
  | comment
  | commentEnded
  deriving DecidableEq

/-- A question that only the next character answers. -/
inductive Ahead where
  /-- Does a question mark belong to the repetition before it? -/
  | lazy
  /-- Does a brace belong to the word boundary before it? -/
  | wordBoundary (place : Place)
  /-- Is a character doubled to an operator? -/
  | doubled (c : Char)
  /-- Does an inner bracket open a named class? -/
  | inner
  /-- Does the text behind an inner bracket name a class? -/
  | named (seen : List Char)
  /-- Does a hyphen join two ends of a range? -/
  | hyphen (first : Atom) (gap : Gap)

/-- The alternatives and items read so far in a group, newest first. -/
structure Branches where
  done : List Tree
  items : List Tree

/-- A group that is still open, with what was read before it. -/
structure OpenGroup where
  outer : Branches
  captures : Bool
  change : FlagChange

/-- What has been read of the innermost group, and the groups around it. -/
structure Stack where
  branches : Branches
  groups : List OpenGroup

/-- What a character does with the items read before it. -/
inductive Action where
  | atom (a : Atom)
  | bracketed (negated : Bool) (body : ClassTree)
  | setFlags (change : FlagChange)
  | repetition (least : Nat) (most : Option Nat)
  /-- Nothing is repeated yet, but there has to be an item that can be. -/
  | repeatable
  | alternative
  | openGroup (captures : Bool) (change : FlagChange)
  | closeGroup

/-- A class that is still open, its members newest first. -/
structure OpenClass where
  negated : Bool
  left : Option (SetOp × ClassTree)
  members : List ClassTree

/-- What the characters read so far mean for the next one. -/
structure State where
  mode : Mode
  ahead : Option Ahead
  ignoreSpace : Bool
  inComment : Bool
  /-- Whether blanks are ignored behind each open group, innermost first. -/
  spaceBehind : List Bool
  classes : List OpenClass
  names : List String
  /-- What the last character does with the items before it, newest first. -/
  actions : List Action

/-- What has been read of an expression. -/
structure Reading where
  state : State
  stack : Stack

/-- The state before the first character. -/
def State.initial : State :=
  { mode := .items
    ahead := none
    ignoreSpace := false
    inComment := false
    spaceBehind := []
    classes := []
    names := []
    actions := [] }

/-- Nothing has been read. -/
def Reading.initial : Reading := ⟨.initial, ⟨⟨[], []⟩, []⟩⟩

/-- The tree of the alternatives and items of a group. -/
def Branches.tree (b : Branches) : Tree :=
  Tree.ofAlternatives ((Tree.ofItems b.items.reverse :: b.done).reverse)

namespace Stack

/-- Adds an item to the current alternative. -/
def push (stack : Stack) (item : Tree) : Stack :=
  ⟨⟨stack.branches.done, item :: stack.branches.items⟩, stack.groups⟩

/-- Repeats the last item. -/
def repeatItem (stack : Stack) (least : Nat) (most : Option Nat) : Except Fault Stack :=
  match stack.branches.items with
  | [] | .empty :: _ | .setFlags _ :: _ => .error .repetitionMissing
  | item :: rest => .ok ⟨⟨stack.branches.done, .repetition least most item :: rest⟩, stack.groups⟩

/-- The stack after an action. -/
def act (stack : Stack) : Action → Except Fault Stack
  | .atom a => .ok (stack.push (.atom a))
  | .bracketed negated body => .ok (stack.push (.bracketed negated body))
  | .setFlags change => .ok (stack.push (.setFlags change))
  | .repetition least most => stack.repeatItem least most
  -- Only the presence of an item matters here.
  | .repeatable => (stack.repeatItem 0 none).map fun _ => stack
  | .alternative =>
    .ok ⟨⟨Tree.ofItems stack.branches.items.reverse :: stack.branches.done, []⟩, stack.groups⟩
  | .openGroup captures change =>
    .ok ⟨⟨[], []⟩, ⟨stack.branches, captures, change⟩ :: stack.groups⟩
  | .closeGroup =>
    match stack.groups with
    | [] => .error .groupUnopened
    | group :: outer =>
      let inner := Tree.group group.captures group.change stack.branches.tree
      .ok (Stack.push ⟨group.outer, outer⟩ inner)

/-- The stack after actions, of which the newest is listed first. -/
def perform (stack : Stack) : List Action → Except Fault Stack
  | [] => .ok stack
  | action :: earlier => do (← stack.perform earlier).act action

end Stack

/-- The tree of what stands inside the brackets of a class. -/
def OpenClass.tree (c : OpenClass) : ClassTree :=
  let members := ClassTree.ofMembers c.members.reverse
  match c.left with
  | none => members
  | some (op, left) => .combine op left members

/-- A character that stands for itself. -/
def Atom.ofChar (c : Char) : Atom := .literal ⟨c, false⟩

/-- A member of a class written with one atom. -/
def Atom.member : Atom → Except Fault ClassTree
  | .literal l => .ok (.literal l)
  | .property query negated => .ok (.property query negated)
  | .shorthand s negated => .ok (.shorthand s negated)
  | _ => .error .classEscapeInvalid

/-- The range between two atoms. -/
def Atom.rangeTo : Atom → Atom → Except Fault ClassTree
  | .literal first, .literal last =>
    if first.char ≤ last.char then .ok (.range first last) else .error .classRangeReversed
  | _, _ => .error .classRangeNotLiteral

namespace State

/-- Notes what is done with the items read so far. -/
def note (s : State) (action : Action) : State := { s with actions := action :: s.actions }

/-- Adds an item to the current alternative. -/
def addItem (s : State) (item : Action) : State := { s.note item with mode := .items }

/-- Adds a member to the innermost class. -/
def addMember (s : State) (member : ClassTree) : State :=
  let classes := match s.classes with
    | [] => []
    | c :: outer => ⟨c.negated, c.left, member :: c.members⟩ :: outer
  { s with mode := .classBody, classes := classes }

/-- Puts an atom in its place. -/
def place (s : State) (atom : Atom) : Place → Except Fault State
  | .item => .ok (s.addItem (.atom atom))
  | .member => .ok { s with mode := .afterMember atom }
  | .rangeEnd first => (first.rangeTo atom).map s.addMember

/-- Repeats the last item by an operator of one character. -/
def repeatBySign (s : State) (least : Nat) (most : Option Nat) : State :=
  { s.note (.repetition least most) with ahead := some .lazy }

/-- Starts a counted repetition of the last item. -/
def openCount (s : State) : State :=
  { s.note .repeatable with mode := .countLeast ⟨none, false⟩ }

/-- Starts a group. -/
def openGroup (s : State) (captures : Bool) (change : FlagChange) : State :=
  { s.note (.openGroup captures change) with
    mode := .items
    ignoreSpace := change.apply .ignoreSpace s.ignoreSpace
    spaceBehind := s.ignoreSpace :: s.spaceBehind }

/-- Ends the innermost group. -/
def closeGroup (s : State) : Except Fault State :=
  match s.spaceBehind with
  | [] => .error .groupUnopened
  | behind :: outer =>
    .ok { s.note .closeGroup with mode := .items, ignoreSpace := behind, spaceBehind := outer }

/-- Starts a class. -/
def openClass (s : State) : State :=
  { s with mode := .classOpen .bracket, classes := ⟨false, none, []⟩ :: s.classes }

/-- Ends the innermost class. -/
def closeClass (s : State) : State :=
  match s.classes with
  | [] => s
  | [c] => { s with classes := [] }.addItem (.bracketed c.negated c.tree)
  | c :: outer => { s with classes := outer }.addMember (.bracketed c.negated c.tree)

/-- Negates the innermost class. -/
def negateClass (s : State) : State :=
  let classes := match s.classes with
    | [] => []
    | c :: outer => { c with negated := true } :: outer
  { s with mode := .classOpen .negated, classes := classes }

/-- Ends the left side of an operator. -/
def setOperator (s : State) (op : SetOp) : State :=
  let classes := match s.classes with
    | [] => []
    | c :: outer => ⟨c.negated, some (op, c.tree), []⟩ :: outer
  { s with mode := .classBody, classes := classes }

/-- Takes a character outside of classes. -/
def takeItem (s : State) (c : Char) : Except Fault State :=
  match c with
  | '(' => .ok { s with mode := .groupOpen }
  | ')' => s.closeGroup
  | '|' => .ok (s.note .alternative)
  | '[' => .ok s.openClass
  | '?' => .ok (s.repeatBySign 0 (some 1))
  | '*' => .ok (s.repeatBySign 0 none)
  | '+' => .ok (s.repeatBySign 1 none)
  | '\x7b' => .ok s.openCount
  | '\\' => .ok { s with mode := .escape .item }
  | '.' => .ok (s.addItem (.atom .any))
  | '^' => .ok (s.addItem (.atom (.assertion .lineStart)))
  | '$' => .ok (s.addItem (.atom (.assertion .lineEnd)))
  | c => .ok (s.addItem (.atom (.ofChar c)))

/-- Takes a character between members of a class. -/
def takeMember (s : State) (c : Char) : Except Fault State :=
  match c with
  | '[' => .ok { s with ahead := some .inner }
  | ']' => .ok s.closeClass
  | '&' | '-' | '~' => .ok { s with ahead := some (.doubled c) }
  | '\\' => .ok { s with mode := .escape .member }
  | c => .ok { s with mode := .afterMember (.ofChar c) }

/-- Takes a character at the start of a class, where hyphens and a bracket stand for themselves. -/
def takeOpening (s : State) (opening : Opening) (c : Char) : Except Fault State :=
  if c = '^' && opening = .bracket then .ok s.negateClass
  else if c = '-' then
    .ok { s.addMember (.literal ⟨'-', false⟩) with mode := .classOpen .hyphens }
  else if c = ']' && opening ≠ .hyphens then .ok (s.addMember (.literal ⟨']', false⟩))
  else { s with mode := .classBody }.takeMember c

/-- Takes a character behind a member that may turn out to start a range. -/
def takeAfterMember (s : State) (first : Atom) (c : Char) : Except Fault State :=
  if c = '-' then .ok { s with ahead := some (.hyphen first .nothing) }
  else do
    let member ← first.member
    (s.addMember member).takeMember c

/-- Takes the first character of the second end of a range. -/
def takeRangeEnd (s : State) (first : Atom) (c : Char) : Except Fault State :=
  if c = '\\' then .ok { s with mode := .escape (.rangeEnd first) }
  else s.place (.ofChar c) (.rangeEnd first)

/-- The number of a count, once its digits have ended. -/
def countValue (digits : Option Nat) : Except Fault Nat :=
  match digits with
  | none => .error .repetitionEmpty
  | some n => if n ≤ countLimit then .ok n else .error .repetitionTooLong

/-- The digits of a count with one more character, unless the character ends them. -/
def countStep (scan : CountScan) (c : Char) : Option CountScan :=
  if Unicode.isBlank c then
    -- Blanks may stand before the digits and behind them.
    some (if scan.digits.isSome then { scan with ended := true } else scan)
  else if c.isDigit && !scan.ended then
    some { scan with digits := some (scan.digits.getD 0 * 10 + (c.toNat - 48)) }
  else none

/-- Ends a counted repetition. -/
def closeCount (s : State) (least : Nat) (most : Option Nat) : Except Fault State :=
  if most.any (· < least) then .error .repetitionReversed
  else .ok { s.note (.repetition least most) with mode := .counted }

/-- Takes a character of the first count. -/
def takeCountLeast (s : State) (scan : CountScan) (c : Char) : Except Fault State :=
  match countStep scan c with
  | some scan => .ok { s with mode := .countLeast scan }
  | none =>
    if c = ',' then .ok { s with mode := .countComma (countValue scan.digits) }
    else do
      let count ← countValue scan.digits
      if c = '\x7d' then s.closeCount count (some count) else .error .repetitionUnclosed

/-- Takes a character of the second count. -/
def takeCountMost (s : State) (least : Nat) (scan : CountScan) (c : Char) :
    Except Fault State :=
  match countStep scan c with
  | some scan => .ok { s with mode := .countMost least scan }
  | none => do
    let most ← countValue scan.digits
    if c = '\x7d' then s.closeCount least (some most) else .error .repetitionUnclosed

/-- Takes the character behind the comma between two counts. -/
def takeCountComma (s : State) (least : Except Fault Nat) (c : Char) : Except Fault State := do
  let least ← least
  if c = '\x7d' then s.closeCount least none
  else s.takeCountMost least ⟨none, false⟩ c

/-- Takes a character of the flags behind an opening parenthesis. -/
def takeFlag (s : State) (scan : FlagScan) (c : Char) : Except Fault State :=
  let change := scan.change
  if c = ':' || c = ')' then
    if scan.dangling then .error .flagNegationDangling
    else if c = ':' then .ok (s.openGroup false change)
    else if change = .none then .error .repetitionMissing
    else .ok { s.addItem (.setFlags change) with
      ignoreSpace := change.apply .ignoreSpace s.ignoreSpace }
  else if c = '-' then
    if scan.negated then .error .flagNegationRepeated
    else .ok { s with mode := .flags ⟨change, true, true⟩ }
  else
    match Flag.ofLetter? c with
    | none => .error .flagUnrecognized
    | some flag =>
      if change.on.contains flag || change.off.contains flag then .error .flagDuplicate
      else
        let change : FlagChange :=
          if scan.negated then ⟨change.on, flag :: change.off⟩ else ⟨flag :: change.on, change.off⟩
        .ok { s with mode := .flags ⟨change, scan.negated, false⟩ }

/-- Takes the character behind an opening parenthesis and a question mark. -/
def takeGroupQuestion (s : State) (c : Char) : Except Fault State :=
  match c with
  | '=' | '!' => .error .lookAround
  | '<' => .ok { s with mode := .groupAngle }
  | 'P' => .ok { s with mode := .groupLetter }
  | c => s.takeFlag ⟨.none, false, false⟩ c

/-- Whether a character may stand in the name of a group. -/
def isNameChar (first : Bool) (c : Char) : Bool :=
  if first then c == '_' || Unicode.isNameLetter c
  else c == '_' || c == '.' || c == '[' || c == ']' || Unicode.isNameCharacter c

/-- Takes a character of the name of a group. -/
def takeGroupName (s : State) (reversed : List Char) (c : Char) : Except Fault State :=
  if c = '>' then
    let name := String.ofList reversed.reverse
    if reversed.isEmpty then .error .groupNameEmpty
    else if s.names.contains name then .error .groupNameDuplicate
    else .ok { s.openGroup true .none with names := name :: s.names }
  else if isNameChar reversed.isEmpty c then
    .ok { s with mode := .groupName (c :: reversed) }
  else .error .groupNameInvalid

/-- Takes the character behind an opening parenthesis, a question mark and an angle. -/
def takeGroupAngle (s : State) (c : Char) : Except Fault State :=
  if c = '=' || c = '!' then .error .lookAround else s.takeGroupName [] c

/-- Places the character with a given code point. -/
def placeCode (s : State) (code : Nat) (byteForm : Bool) (place : Place) : Except Fault State :=
  if Nat.isValidChar code then s.place (.literal ⟨Char.ofNat code, byteForm⟩) place
  else .error .hexNotCharacter

/-- The value of a hexadecimal digit of either case. -/
def hexDigit? (c : Char) : Option Nat :=
  if c.isDigit then some (c.toNat - 48)
  else if 'a' ≤ c && c ≤ 'f' then some (c.toNat - 87)
  else if 'A' ≤ c && c ≤ 'F' then some (c.toNat - 55)
  else none

/-- Takes one of a fixed number of hexadecimal digits. -/
def takeHexDigit (s : State) (place : Place) (byteForm : Bool) (missing value : Nat) (c : Char) :
    Except Fault State :=
  match hexDigit? c with
  | none => .error .hexDigitInvalid
  | some digit =>
    let value := value * 16 + digit
    if missing ≤ 1 then s.placeCode value byteForm place
    else .ok { s with mode := .hexDigits place byteForm (missing - 1) value }

/-- Takes a hexadecimal digit between braces, or the closing brace. -/
def takeHexBrace (s : State) (place : Place) (value : Option Nat) (c : Char) :
    Except Fault State :=
  if c = '\x7d' then
    match value with
    | none => .error .hexEmpty
    | some code => s.placeCode code false place
  else
    match hexDigit? c with
    | none => .error .hexDigitInvalid
    | some digit => .ok { s with mode := .hexBrace place (some (value.getD 0 * 16 + digit)) }

/-- Takes the character behind the letter of a hexadecimal escape. -/
def takeHexOpen (s : State) (place : Place) (digits : Nat) (c : Char) : Except Fault State :=
  if c = '\x7b' then .ok { s with mode := .hexBrace place none }
  else s.takeHexDigit place (digits = 2) digits 0 c

/-- The text before the first occurrence of a mark, and the text behind it. -/
def splitAtMark (mark : List Char) : List Char → Option (List Char × List Char)
  | [] => none
  | c :: rest =>
    if mark.isPrefixOf (c :: rest) then some ([], (c :: rest).drop mark.length)
    else (splitAtMark mark rest).map fun (before, behind) => (c :: before, behind)

/--
The property written between braces, and whether all but the given value is asked for.

The mark `!=` asks for the characters without the value: behind a small letter the set is negated,
and behind a capital letter it is negated twice.
-/
def propertyQuery (text : List Char) : Unicode.Query × Bool :=
  let marks := [(['!', '='], true), ([':'], false), (['='], false)]
  -- Of the three marks between a property and its value the first one listed here counts.
  let split := marks.findSome? fun (mark, differs) => (splitAtMark mark text).map (·, differs)
  match split with
  | some ((name, value), differs) => (.valued (String.ofList name) (String.ofList value), differs)
  | none => (.named (String.ofList text), false)

/-- Takes the character behind the letter of a property. -/
def takePropertyOpen (s : State) (place : Place) (negated : Bool) (c : Char) :
    Except Fault State :=
  if c = '\x7b' then .ok { s with mode := .propertyName place negated [] }
  else if c = '\\' then .error .propertyInvalid
  else s.place (.property (.named (String.singleton c)) negated) place

/-- Takes a character of the name of a property. -/
def takePropertyName (s : State) (place : Place) (negated : Bool) (reversed : List Char)
    (c : Char) : Except Fault State :=
  if c = '\x7d' then
    let (query, differs) := propertyQuery reversed.reverse
    -- All but the given value, negated, is the value again.
    s.place (.property query (negated != differs)) place
  else .ok { s with mode := .propertyName place negated (c :: reversed) }

/-- Characters that need a backslash to stand for themselves somewhere. -/
def isMeta (c : Char) : Bool := "\\.+*?()|[]\x7b\x7d^$#&-~".toList.contains c

/-- Whether a backslash makes a character stand for itself. -/
def isEscapable (c : Char) : Bool :=
  isMeta c || (c.toNat < 128 && !c.isAlphanum && c != '<' && c != '>')

/-- Takes the character behind a backslash. -/
def takeEscape (s : State) (place : Place) (c : Char) : Except Fault State :=
  if c.isDigit then .error .backreference
  else if isEscapable c then s.place (.ofChar c) place
  else
    match c with
    | 'x' => .ok { s with mode := .hexOpen place 2 }
    | 'u' => .ok { s with mode := .hexOpen place 4 }
    | 'U' => .ok { s with mode := .hexOpen place 8 }
    | 'p' => .ok { s with mode := .propertyOpen place false }
    | 'P' => .ok { s with mode := .propertyOpen place true }
    | 'd' => s.place (.shorthand .digit false) place
    | 's' => s.place (.shorthand .space false) place
    | 'w' => s.place (.shorthand .word false) place
    | 'D' => s.place (.shorthand .digit true) place
    | 'S' => s.place (.shorthand .space true) place
    | 'W' => s.place (.shorthand .word true) place
    | 'a' => s.place (.ofChar '\x07') place
    | 'f' => s.place (.ofChar '\x0c') place
    | 't' => s.place (.ofChar '\t') place
    | 'n' => s.place (.ofChar '\n') place
    | 'r' => s.place (.ofChar '\r') place
    | 'v' => s.place (.ofChar '\x0b') place
    | 'A' => s.place (.assertion .textStart) place
    | 'z' => s.place (.assertion .textEnd) place
    | 'b' => .ok { s with ahead := some (.wordBoundary place) }
    | 'B' => s.place (.assertion .notWordBoundary) place
    | '<' => s.place (.assertion .wordStart) place
    | '>' => s.place (.assertion .wordEnd) place
    | _ => .error .escapeUnrecognized

/-- Whether a character may stand in the name of a word boundary. -/
def isWordNameChar (c : Char) : Bool := c.isAlpha || c == '-'

/-- Takes the first character behind a word boundary and a brace. -/
def takeWordBrace (s : State) (place : Place) (c : Char) : Except Fault State :=
  if isWordNameChar c then .ok { s with mode := .wordName place [c] }
  else do
    -- The brace does not belong to the boundary but counts its repetitions.
    let s ← s.place (.assertion .wordBoundary) place
    match place with
    | .item => s.openCount.takeCountLeast ⟨none, false⟩ c
    | _ => .error .classEscapeInvalid

/-- The boundary with a name. -/
def wordBoundaryNamed? : String → Option Assertion
  | "start" => some .wordStart
  | "end" => some .wordEnd
  | "start-half" => some .wordStartHalf
  | "end-half" => some .wordEndHalf
  | _ => none

/-- Takes a character of the name of a word boundary. -/
def takeWordName (s : State) (place : Place) (reversed : List Char) (c : Char) :
    Except Fault State :=
  if isWordNameChar c then .ok { s with mode := .wordName place (c :: reversed) }
  else if c = '\x7d' then
    match wordBoundaryNamed? (String.ofList reversed.reverse) with
    | some boundary => s.place (.assertion boundary) place
    | none => .error .wordBoundaryUnrecognized
  else .error .wordBoundaryUnclosed

/-- Takes a character that is neither a blank to ignore nor the answer to a question. -/
def take (s : State) (c : Char) : Except Fault State :=
  match s.mode with
  | .items => s.takeItem c
  | .counted =>
    if c = '?' then .ok { s with mode := .items } else { s with mode := .items }.takeItem c
  | .countLeast scan => s.takeCountLeast scan c
  | .countComma least => s.takeCountComma least c
  | .countMost least scan => s.takeCountMost least scan c
  | .groupOpen =>
    if c = '?' then .ok { s with mode := .groupQuestion } else (s.openGroup true .none).takeItem c
  | .groupQuestion => s.takeGroupQuestion c
  | .groupAngle => s.takeGroupAngle c
  | .groupLetter =>
    if c = '<' then .ok { s with mode := .groupName [] } else .error .flagUnrecognized
  | .groupName reversed => s.takeGroupName reversed c
  | .flags scan => s.takeFlag scan c
  | .escape place => s.takeEscape place c
  | .hexOpen place digits => s.takeHexOpen place digits c
  | .hexDigits place byteForm missing value => s.takeHexDigit place byteForm missing value c
  | .hexBrace place value => s.takeHexBrace place value c
  | .propertyOpen place negated => s.takePropertyOpen place negated c
  | .propertyName place negated reversed => s.takePropertyName place negated reversed c
  | .wordBrace place => s.takeWordBrace place c
  | .wordName place reversed => s.takeWordName place reversed c
  | .classOpen opening => s.takeOpening opening c
  | .classBody => s.takeMember c
  | .afterMember first => s.takeAfterMember first c
  | .rangeEnd first => s.takeRangeEnd first c

/-- Whether blanks and comments before the next character can be ignored. -/
def allowsSpace (s : State) : Bool :=
  match s.mode with
  | .groupQuestion | .groupAngle | .groupLetter | .groupName _ | .flags _ | .escape _ => false
  | .countLeast scan => !scan.ended
  | .countMost _ scan => !scan.ended
  | _ => true

/-- Takes a character, or ignores it as a blank or the start of a comment. -/
def advance (s : State) (c : Char) : Except Fault State :=
  if s.ignoreSpace && s.allowsSpace then
    if Unicode.isBlank c then .ok s
    else if c = '#' then .ok { s with inComment := true }
    else s.take c
  else s.take c

/-- Decides whether a hyphen behind a member joins two ends of a range. -/
def resolveHyphen (s : State) (first : Atom) (gap : Gap) (c : Char) : Except Fault State :=
  let waiting (gap : Gap) : Except Fault State := .ok { s with ahead := some (.hyphen first gap) }
  -- Without a range, both the member and the hyphen stand for themselves.
  let apart : Except Fault State :=
    first.member.map fun member =>
      { s.addMember member with mode := .afterMember (.ofChar '-') }
  let range : State := { s with mode := .rangeEnd first }
  let blank := s.ignoreSpace && Unicode.isBlank c
  let closing := c = ']' || c = '-'
  match gap with
  | .comment =>
    if c = '\n' then waiting .commentEnded
    else if blank then waiting .comment
    else if closing then apart.map fun s => { s with inComment := true }
    else .ok { range with inComment := true }
  | gap =>
    if blank then waiting (if gap = .nothing then .blanks else gap)
    else if s.ignoreSpace && c = '#' && gap ≠ .commentEnded then waiting .comment
    else if c = '-' && gap = .nothing then
      first.member.map fun member => (s.addMember member).setOperator .diff
    else if closing then do (← apart).advance c
    else range.advance c

/-- The operator that a doubled character writes. -/
def doubledOperator : Char → SetOp
  | '&' => .inter
  | '-' => .diff
  | _ => .symmDiff

/-- Answers a question with the next character, which may then be taken itself. -/
def resolve (s : State) (question : Ahead) (c : Char) : Except Fault State :=
  match question with
  | .lazy => if c = '?' then .ok s else s.advance c
  | .wordBoundary place =>
    if c = '\x7b' then .ok { s with mode := .wordBrace place }
    else do (← s.place (.assertion .wordBoundary) place).advance c
  | .doubled d =>
    if c = d then .ok (s.setOperator (doubledOperator d))
    else { s with mode := .afterMember (.ofChar d) }.advance c
  | .inner =>
    if c = ':' then .ok { s with ahead := some (.named [':']) } else s.openClass.advance c
  | .named seen =>
    let text := seen ++ [c]
    match PosixClass.ofForm? text with
    | some (name, negated) => .ok (s.addMember (.posix name negated))
    | none =>
      if PosixClass.isFormStart text then .ok { s with ahead := some (.named text) }
      -- What was taken for a name is the content of an inner class.
      else text.foldlM advance s.openClass
  | .hyphen first gap => s.resolveHyphen first gap c

/-- Takes the next character of an expression. -/
def step (s : State) (c : Char) : Except Fault State :=
  let fresh := { s with actions := [] }
  if s.inComment then .ok { fresh with inComment := c != '\n' }
  else
    match s.ahead with
    | some question => { fresh with ahead := none }.resolve question c
    | none => fresh.advance c

/-- Refuses an expression that ends where something is half read. -/
def finishMode (s : State) : Except Fault State :=
  match s.mode with
  | .items | .counted => .ok s
  | .countLeast _ | .countComma _ => .error .repetitionUnclosed
  | .countMost _ scan => do
    let _ ← countValue scan.digits
    .error .repetitionUnclosed
  | .groupOpen | .groupQuestion => .error .groupUnclosed
  | .groupLetter => .error .flagUnrecognized
  | .groupAngle | .groupName _ => .error .groupNameUnclosed
  | .flags _ => .error .flagsUnclosed
  | .escape _ | .hexOpen _ _ | .hexDigits _ _ _ _ | .hexBrace _ _ => .error .escapeUnfinished
  | .propertyOpen _ _ | .propertyName _ _ _ => .error .escapeUnfinished
  | .wordBrace _ => .error .wordBoundaryOrRepetitionUnclosed
  | .wordName _ _ => .error .wordBoundaryUnclosed
  | .classOpen _ | .classBody | .afterMember _ | .rangeEnd _ => .error .classUnclosed

/-- Ends an expression, answering the question that its last character left. -/
def finish (s : State) : Except Fault State :=
  let fresh := { s with ahead := none, actions := [] }
  match s.ahead with
  | none | some .lazy => fresh.finishMode
  | some (.wordBoundary place) => do (← fresh.place (.assertion .wordBoundary) place).finishMode
  | some _ => .error .classUnclosed

end State

namespace Reading

/-- Takes the next character of an expression. -/
def step (r : Reading) (c : Char) : Except Fault Reading := do
  let state ← r.state.step c
  let stack ← r.stack.perform state.actions
  .ok ⟨state, stack⟩

/-- The tree of an expression that has been read to its end. -/
def finish (r : Reading) : Except Fault Tree := do
  let state ← r.state.finish
  let stack ← r.stack.perform state.actions
  match stack.groups with
  | [] => .ok stack.branches.tree
  | _ => .error .groupUnclosed

end Reading

/-- The tree that a text writes. -/
def Tree.read (text : List Char) : Except Fault Tree := do
  let tree ← (← text.foldlM Reading.step Reading.initial).finish
  if nestingLimit < tree.nesting then .error .nestedTooDeeply else .ok tree

end NamedParams.Regex
