import NamedParams.CharSet
import NamedParams.Regex.Tree

/-! The named classes of ASCII characters and how they are written inside brackets. -/

namespace NamedParams.Regex.PosixClass

/-- Every named class. -/
def all : List PosixClass :=
  [.alnum, .alpha, .ascii, .blank, .cntrl, .digit, .graph, .lower, .print, .punct, .space,
    .upper, .word, .xdigit]

/-- The name of a class. -/
def name : PosixClass → String
  | .alnum => "alnum"
  | .alpha => "alpha"
  | .ascii => "ascii"
  | .blank => "blank"
  | .cntrl => "cntrl"
  | .digit => "digit"
  | .graph => "graph"
  | .lower => "lower"
  | .print => "print"
  | .punct => "punct"
  | .space => "space"
  | .upper => "upper"
  | .word => "word"
  | .xdigit => "xdigit"

/-- The members of a class. -/
def members : PosixClass → CharSet
  | .alnum => .ofHex "30-39 41-5A 61-7A"
  | .alpha => .ofHex "41-5A 61-7A"
  | .ascii => .ofHex "0-7F"
  | .blank => .ofHex "9 20"
  | .cntrl => .ofHex "0-1F 7F"
  | .digit => .ofHex "30-39"
  | .graph => .ofHex "21-7E"
  | .lower => .ofHex "61-7A"
  | .print => .ofHex "20-7E"
  | .punct => .ofHex "21-2F 3A-40 5B-60 7B-7E"
  | .space => .ofHex "9-D 20"
  | .upper => .ofHex "41-5A"
  | .word => .ofHex "30-39 41-5A 5F 61-7A"
  | .xdigit => .ofHex "30-39 41-46 61-66"

/-- The written forms of the classes behind an opening bracket, plain and negated. -/
def forms : List (List Char × PosixClass × Bool) :=
  all.flatMap fun c =>
    let tail := c.name.toList ++ [':', ']']
    [(':' :: tail, c, false), (':' :: '^' :: tail, c, true)]

/-- The class that a text behind an opening bracket writes. -/
def ofForm? (text : List Char) : Option (PosixClass × Bool) := forms.lookup text

/-- Whether a text behind an opening bracket may still become a class. -/
def isFormStart (text : List Char) : Bool := forms.any fun form => text.isPrefixOf form.1

end NamedParams.Regex.PosixClass
