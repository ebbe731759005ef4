/-! Declared anchors, pinned to the ends of the whole text. -/

namespace NamedParams.Anchors

/-- Where a pattern is being read, as far as bracketed classes go. -/
inductive Position where
  | outside
  /-- Behind an opening bracket: a caret negates, and a closing bracket stands for itself. -/
  | opened
  /-- Behind the caret that negates: a closing bracket stands for itself. -/
  | negated
  | inside
  deriving DecidableEq

/-- What the characters read so far mean for the next one. -/
structure Scan where
  /-- The backslashes directly before the next character are odd in number. -/
  escaped : Bool
  /-- The classes that are open. -/
  depth : Nat
  position : Position
  deriving DecidableEq

/-- The scan before the first character. -/
def Scan.initial : Scan := ⟨false, 0, .outside⟩

/-- The start of the whole text. -/
def textStart : List Char := ['\\', 'A']

/-- The end of the whole text. -/
def textEnd : List Char := ['\\', 'z']

/-- Takes the next character, and gives what is written for it. -/
def Scan.step (scan : Scan) (c : Char) : Scan × List Char :=
  -- Backslashes alone leave the position as it is.
  if c = '\\' then ({ scan with escaped := !scan.escaped }, [c])
  else if scan.escaped then
    -- Any other escape pair is ordinary content, in the first position too.
    (⟨false, scan.depth, if 0 < scan.depth then .inside else scan.position⟩, [c])
  else
    match c, scan.position with
    | '^', .outside => (scan, textStart)
    | '$', .outside => (scan, textEnd)
    | '[', _ => (⟨false, scan.depth + 1, .opened⟩, [c])
    | '^', .opened => (⟨false, scan.depth, .negated⟩, [c])
    | ']', .opened | ']', .negated => (⟨false, scan.depth, .inside⟩, [c])
    | ']', .inside =>
      (⟨false, scan.depth - 1, if scan.depth = 1 then .outside else .inside⟩, [c])
    | _, .outside => (scan, [c])
    | _, _ => (⟨false, scan.depth, .inside⟩, [c])

/-- The scan behind a text. -/
def Scan.after (scan : Scan) (text : List Char) : Scan :=
  text.foldl (fun scan c => (scan.step c).1) scan

/-- What is written for a text that follows the scan. -/
def Scan.pin (scan : Scan) : List Char → List Char
  | [] => []
  | c :: rest => (scan.step c).2 ++ (scan.step c).1.pin rest

/-- A pattern with each anchor outside of classes replaced by an anchor of the whole text. -/
def pin (pattern : String) : String := String.ofList (Scan.initial.pin pattern.toList)

end NamedParams.Anchors
