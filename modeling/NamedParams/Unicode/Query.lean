import NamedParams.CharSet
import NamedParams.Unicode.Age
import NamedParams.Unicode.BinaryProperty
import NamedParams.Unicode.Boundary
import NamedParams.Unicode.Category
import NamedParams.Unicode.Script
import NamedParams.Unicode.ScriptExtensions

/-! Finding the characters with a named property, in Unicode version 16.0. -/

namespace NamedParams.Unicode

/-- A property as it is asked for. -/
inductive Query where
  /-- A general category, script or binary property by its own name. -/
  | named (name : String)
  /-- One value of a property. -/
  | valued (name value : String)
  deriving DecidableEq

/-- Why no set of characters answers a query. -/
inductive QueryFault where
  | unknownProperty
  | unknownValue
  deriving DecidableEq

/-- Names are compared without case, blanks, hyphens, underscores and a leading `is`. -/
def looseName (name : String) : String :=
  let (marked, rest) := match name.toList with
    | first :: second :: rest =>
      if first.toLower = 'i' && second.toLower = 's' then (true, rest) else (false, name.toList)
    | short => (false, short)
  let kept := rest.filter fun c => c.toNat < 128 && c != ' ' && c != '_' && c != '-'
  let loose := kept.map Char.toLower
  -- One property is named by these three letters, the mark included.
  if marked && loose = ['c'] then "isc" else String.ofList loose

/-- The first name in the row that loosely matches. -/
def canonical? (rows : List (List String)) (loose : String) : Option String :=
  match rows.find? fun row => row.any fun name => looseName name = loose with
  | some (first :: _) => some first
  | _ => none

/-- The characters listed under a name. -/
def listed? (table : List (String × String)) (name : String) : Option CharSet :=
  (table.lookup name).map CharSet.ofHex

/-- The characters without a general category of their own. -/
def unassigned : CharSet :=
  (CharSet.ofRanges (categoryRanges.flatMap fun entry => CharSet.hexRanges entry.2)).complement

/-- The characters of one general category; surrogates are no characters. -/
def category? (letters : String) : Option CharSet :=
  if letters = "Cn" then some unassigned
  else if letters = "Cs" then none
  else listed? categoryRanges letters

/-- The characters of a general category or of a group of them. -/
def generalCategory? (loose : String) : Option (Except QueryFault CharSet) :=
  if loose = "any" then some (.ok CharSet.empty.complement)
  else if loose = "assigned" then some (.ok unassigned.complement)
  else if loose = "ascii" then some (.ok (CharSet.range '\x00' '\x7f'))
  else
    match categoryGroups.find? fun group => group.1.any fun name => looseName name = loose with
    | some group => some (.ok ((group.2.filterMap category?).foldl CharSet.union CharSet.empty))
    | none => (canonical? categoryNames loose).map fun letters =>
      match category? letters with
      | some set => .ok set
      | none => .error .unknownValue

/-- The characters listed for a value of a property. -/
def value? (names : List (List String)) (table : List (String × String)) (loose : String) :
    Except QueryFault CharSet :=
  match (canonical? names loose).bind (listed? table) with
  | some set => .ok set
  | none => .error .unknownValue

/-- The characters assigned up to a version, written with or without a letter. -/
def age? (loose : String) : Except QueryFault CharSet :=
  let spelled (version : String) : List String :=
    [version, "v" ++ String.ofList (version.toList.filter Char.isDigit)]
  let earlier := ageRanges.takeWhile fun entry => !(spelled entry.1).contains loose
  match ageRanges[earlier.length]? with
  | none => .error .unknownValue
  | some entry =>
    .ok (CharSet.ofRanges ((earlier ++ [entry]).flatMap fun entry => CharSet.hexRanges entry.2))

/-- Properties that are neither binary nor offered here by their values. -/
def otherProperties : List (List String) := [
  ["age"], ["blk", "Block"], ["bc", "Bidi_Class"], ["Bidi_M", "Bidi_Mirrored"],
  ["bmg", "Bidi_Mirroring_Glyph"], ["bpb", "Bidi_Paired_Bracket"],
  ["bpt", "Bidi_Paired_Bracket_Type"], ["ccc", "Canonical_Combining_Class"],
  ["cf", "Case_Folding"], ["CE", "Composition_Exclusion"],
  ["Comp_Ex", "Full_Composition_Exclusion"], ["CWKCF", "Changes_When_NFKC_Casefolded"],
  ["dm", "Decomposition_Mapping"], ["dt", "Decomposition_Type"], ["ea", "East_Asian_Width"],
  ["EqUIdeo", "Equivalent_Unified_Ideograph"], ["FC_NFKC", "FC_NFKC_Closure"],
  ["gc", "General_Category"], ["GCB", "Grapheme_Cluster_Break"],
  ["hst", "Hangul_Syllable_Type"], ["InCB", "Indic_Conjunct_Break"],
  ["InPC", "Indic_Positional_Category"], ["InSC", "Indic_Syllabic_Category"],
  ["isc", "ISO_Comment"], ["jg", "Joining_Group"], ["JSN", "Jamo_Short_Name"],
  ["jt", "Joining_Type"], ["lb", "Line_Break"], ["lc", "Lowercase_Mapping"], ["na", "Name"],
  ["na1", "Unicode_1_Name"], ["Name_Alias"], ["NFC_QC", "NFC_Quick_Check"],
  ["NFD_QC", "NFD_Quick_Check"], ["NFKC_QC", "NFKC_Quick_Check"],
  ["NFKD_QC", "NFKD_Quick_Check"], ["NFKC_CF", "NFKC_Casefold"],
  ["NFKC_SCF", "NFKC_Simple_Casefold"], ["nt", "Numeric_Type"], ["nv", "Numeric_Value"],
  ["SB", "Sentence_Break"], ["sc", "Script"], ["scf", "Simple_Case_Folding", "sfc"],
  ["scx", "Script_Extensions"], ["slc", "Simple_Lowercase_Mapping"],
  ["stc", "Simple_Titlecase_Mapping"], ["suc", "Simple_Uppercase_Mapping"],
  ["tc", "Titlecase_Mapping"], ["uc", "Uppercase_Mapping"], ["vo", "Vertical_Orientation"],
  ["WB", "Word_Break"], ["XO_NFC", "Expands_On_NFC"], ["XO_NFD", "Expands_On_NFD"],
  ["XO_NFKC", "Expands_On_NFKC"], ["XO_NFKD", "Expands_On_NFKD"],
  -- Properties of ideographs.
  ["cjkAccountingNumeric", "kAccountingNumeric"],
  ["cjkCompatibilityVariant", "kCompatibilityVariant"], ["cjkIICore", "kIICore"],
  ["cjkIRG_GSource", "kIRG_GSource"], ["cjkIRG_HSource", "kIRG_HSource"],
  ["cjkIRG_JSource", "kIRG_JSource"], ["cjkIRG_KPSource", "kIRG_KPSource"],
  ["cjkIRG_KSource", "kIRG_KSource"], ["cjkIRG_MSource", "kIRG_MSource"],
  ["cjkIRG_SSource", "kIRG_SSource"], ["cjkIRG_TSource", "kIRG_TSource"],
  ["cjkIRG_UKSource", "kIRG_UKSource"], ["cjkIRG_USource", "kIRG_USource"],
  ["cjkIRG_VSource", "kIRG_VSource"], ["cjkOtherNumeric", "kOtherNumeric"],
  ["cjkPrimaryNumeric", "kPrimaryNumeric"],
  ["cjkRSUnicode", "kRSUnicode", "Unicode_Radical_Stroke", "URS"],
  -- Properties of hieroglyphs.
  ["kEH_Cat"], ["kEH_Desc"], ["kEH_HG"], ["kEH_IFAO"], ["kEH_JSesh"], ["kEH_NoMirror"],
  ["kEH_NoRotate"]]

/-- The characters with a property that is named alone. -/
def named (loose : String) : Except QueryFault CharSet :=
  -- Three short names of other properties stand for general categories.
  let shared := loose = "cf" || loose = "sc" || loose = "lc"
  let binary := if shared then none else canonical? binaryNames loose
  match binary.bind (listed? binaryRanges) with
  | some set => .ok set
  | none =>
    if !shared && (canonical? otherProperties loose).isSome then .error .unknownProperty
    else
      match generalCategory? loose with
      | some answer => answer
      | none =>
        match canonical? scriptNames loose with
        | none => .error .unknownProperty
        | some letters =>
          match listed? scriptRanges letters with
          | some set => .ok set
          | none => .error .unknownValue

/-- The characters for which a property has a value. -/
def valued (loose value : String) : Except QueryFault CharSet :=
  match canonical? otherProperties loose with
  | some "gc" => (generalCategory? value).getD (.error .unknownValue)
  | some "sc" => value? scriptNames scriptRanges value
  | some "scx" => value? scriptNames scriptExtensionRanges value
  | some "age" => age? value
  | some "GCB" => value? graphemeBreakNames graphemeBreakRanges value
  | some "WB" => value? wordBreakNames wordBreakRanges value
  | some "SB" => value? sentenceBreakNames sentenceBreakRanges value
  | some _ => .error .unknownValue
  | none =>
    if (canonical? binaryNames loose).isSome then .error .unknownValue else .error .unknownProperty

/-- The characters that a query asks for. -/
def Query.answer : Query → Except QueryFault CharSet
  | .named name => Unicode.named (looseName name)
  | .valued name value => Unicode.valued (looseName name) (looseName value)

/-- The members of a binary property. -/
def binary (name : String) : CharSet := (listed? binaryRanges name).getD .empty

/-- Blanks, line ends and other space. -/
def whiteSpace : CharSet := binary "White_Space"

/-- Letters and what counts as letters. -/
def alphabetic : CharSet := binary "Alphabetic"

/-- Decimal digits of every script. -/
def decimalDigit : CharSet := (listed? categoryRanges "Nd").getD .empty

/-- Letters that version 17.0 added. -/
def laterLetter : CharSet :=
  CharSet.ofHex
    "88F C5C CDC A7CE-A7CF A7D2 A7D4 A7F1 10940-10959 10EC5-10EC7 10EFA-10EFB 11B60-11B67
     11DB0-11DDB 16EA0-16EB8 16EBB-16ED3 16FF2-16FF6 187F8-187FF 18D09-18D1E 18D80-18DF2
     1E6C0-1E6DE 1E6E0-1E6F5 1E6FE-1E6FF 2B73A-2B73F 2CEA2-2CEAD 323B0-33479"

/-- Letters with which a name may start; names know the characters of version 17.0. -/
def nameLetter : CharSet := alphabetic.union laterLetter

/-- Letters and numbers of every kind, which names are made of. -/
def nameCharacter : CharSet :=
  (["Nd", "Nl", "No"].filterMap category?).foldl CharSet.union
    (nameLetter.union (CharSet.ofHex "11DE0-11DE9"))

/-- Whether a character is a blank; only beyond ASCII the table is searched. -/
def isBlank (c : Char) : Bool :=
  if c.toNat < 128 then c == ' ' || (9 ≤ c.toNat && c.toNat ≤ 13) else whiteSpace.contains c

/-- Whether a name may start with a character; only beyond ASCII the table is searched. -/
def isNameLetter (c : Char) : Bool :=
  if c.toNat < 128 then c.isAlpha else nameLetter.contains c

/-- Whether a name is made of a character; only beyond ASCII the table is searched. -/
def isNameCharacter (c : Char) : Bool :=
  if c.toNat < 128 then c.isAlphanum else nameCharacter.contains c

/-- Characters of words: letters, marks, decimal digits, connectors and joiners. -/
def wordCharacter : CharSet :=
  (["Mc", "Me", "Mn", "Nd", "Pc"].filterMap category?).foldl CharSet.union
    (alphabetic.union (binary "Join_Control"))

end NamedParams.Unicode
