import PpiDump.Text.Basic

namespace PpiDump

inductive ContentRule where
  | nothing
  /-- Seven characters, of which the first and the last are delimiters. -/
  | delimiters
  /-- Quoted, with escapes for line feed and tab. -/
  | layout
  /-- Quoted, with escapes for line feed, tab and backslash. -/
  | comment
  /-- Quoted and otherwise as it is. -/
  | verbatim
  deriving DecidableEq, Repr

inductive DocumentClass where
  | whole | fragment
  deriving DecidableEq, Repr

inductive StatementClass where
  | plain | jump | compound | data | final | expression | given | inclusion | inclusionPerl6 | null
  | package | scheduled | subroutine | unknown | unmatchedBrace | declaration | whenever
  deriving DecidableEq, Repr

inductive StructureClass where
  | plain | block | condition | constructor | loop | given | list | signature | subscript | unknown
  | whenever
  deriving DecidableEq, Repr

inductive TokenClass where
  | plain | arrayIndex | subAttribute | byteOrderMark | cast | comment | dashedWord | data | final
  | hereDoc | label | magic | number | numberBinary | numberExp | numberFloat | numberHex
  | numberOctal | numberVersion | operator | pod | prototype | quote | quoteDouble
  | quoteInterpolate | quoteLiteral | quoteSingle | quoteLike | quoteLikeBacktick
  | quoteLikeCommand | quoteLikeReadline | quoteLikeRegexp | quoteLikeWords | regexp | regexpMatch
  | regexpSubstitute | regexpTransliterate | separator | punctuation | symbol | unknown
  | whitespace | word
  deriving DecidableEq, Repr

inductive Kind where
  | document (c : DocumentClass)
  | node
  | statement (c : StatementClass)
  | bracket (c : StructureClass)
  | token (c : TokenClass)
  deriving DecidableEq, Repr

namespace DocumentClass

def all : List DocumentClass := [whole, fragment]

def suffix : DocumentClass → String
  | whole => ""
  | fragment => "Fragment"

end DocumentClass

namespace StatementClass

def all : List StatementClass :=
  [plain, jump, compound, data, final, expression, given, inclusion, inclusionPerl6, null, package,
    scheduled, subroutine, unknown, unmatchedBrace, declaration, whenever]

def suffix : StatementClass → String
  | plain => ""
  | jump => "Break"
  | compound => "Compound"
  | data => "Data"
  | final => "End"
  | expression => "Expression"
  | given => "Given"
  | inclusion => "Include"
  | inclusionPerl6 => "IncludePerl6"
  | null => "Null"
  | package => "Package"
  | scheduled => "Scheduled"
  | subroutine => "Sub"
  | unknown => "Unknown"
  | unmatchedBrace => "UnmatchedBrace"
  | declaration => "Variable"
  | whenever => "When"

end StatementClass

namespace StructureClass

def all : List StructureClass :=
  [plain, block, condition, constructor, loop, given, list, signature, subscript, unknown, whenever]

def suffix : StructureClass → String
  | plain => ""
  | block => "Block"
  | condition => "Condition"
  | constructor => "Constructor"
  | loop => "For"
  | given => "Given"
  | list => "List"
  | signature => "Signature"
  | subscript => "Subscript"
  | unknown => "Unknown"
  | whenever => "When"

end StructureClass

namespace TokenClass

def all : List TokenClass :=
  [plain, arrayIndex, subAttribute, byteOrderMark, cast, comment, dashedWord, data, final, hereDoc,
    label, magic, number, numberBinary, numberExp, numberFloat, numberHex, numberOctal,
    numberVersion, operator, pod, prototype, quote, quoteDouble, quoteInterpolate, quoteLiteral,
    quoteSingle, quoteLike, quoteLikeBacktick, quoteLikeCommand, quoteLikeReadline,
    quoteLikeRegexp, quoteLikeWords, regexp, regexpMatch, regexpSubstitute, regexpTransliterate,
    separator, punctuation, symbol, unknown, whitespace, word]

def suffix : TokenClass → String
  | plain => ""
  | arrayIndex => "ArrayIndex"
  | subAttribute => "Attribute"
  | byteOrderMark => "BOM"
  | cast => "Cast"
  | comment => "Comment"
  | dashedWord => "DashedWord"
  | data => "Data"
  | final => "End"
  | hereDoc => "HereDoc"
  | label => "Label"
  | magic => "Magic"
  | number => "Number"
  | numberBinary => "NumberBinary"
  | numberExp => "NumberExp"
  | numberFloat => "NumberFloat"
  | numberHex => "NumberHex"
  | numberOctal => "NumberOctal"
  | numberVersion => "NumberVersion"
  | operator => "Operator"
  | pod => "Pod"
  | prototype => "Prototype"
  | quote => "Quote"
  | quoteDouble => "QuoteDouble"
  | quoteInterpolate => "QuoteInterpolate"
  | quoteLiteral => "QuoteLiteral"
  | quoteSingle => "QuoteSingle"
  | quoteLike => "QuoteLike"
  | quoteLikeBacktick => "QuoteLikeBacktick"
  | quoteLikeCommand => "QuoteLikeCommand"
  | quoteLikeReadline => "QuoteLikeReadline"
  | quoteLikeRegexp => "QuoteLikeRegexp"
  | quoteLikeWords => "QuoteLikeWords"
  | regexp => "Regexp"
  | regexpMatch => "RegexpMatch"
  | regexpSubstitute => "RegexpSubstitute"
  | regexpTransliterate => "RegexpTransliterate"
  | separator => "Separator"
  | punctuation => "Structure"
  | symbol => "Symbol"
  | unknown => "Unknown"
  | whitespace => "Whitespace"
  | word => "Word"

def rule : TokenClass → ContentRule
  | whitespace => .layout
  | comment => .comment
  | _ => .verbatim

end TokenClass

namespace Kind

def all : List Kind :=
  DocumentClass.all.map document ++ [node] ++ StatementClass.all.map statement ++
    StructureClass.all.map bracket ++ TokenClass.all.map token

def tag : Kind → Text
  | document c => "PpiDocument".toList ++ c.suffix.toList
  | node => "PpiNode".toList
  | statement c => "PpiStatement".toList ++ c.suffix.toList
  | bracket c => "PpiStructure".toList ++ c.suffix.toList
  | token c => "PpiToken".toList ++ c.suffix.toList

def rule : Kind → ContentRule
  | bracket _ => .delimiters
  | token c => c.rule
  | _ => .nothing

def isDocument : Kind → Bool
  | document _ => true
  | _ => false

def isBracket : Kind → Bool
  | bracket _ => true
  | _ => false

def isToken : Kind → Bool
  | token _ => true
  | _ => false

def isContainer : Kind → Bool
  | document _ | node | statement _ => true
  | _ => false

def ofTag? (tag : Text) : Option Kind := all.find? fun k ↦ k.tag = tag

/-- The tag a class name stands for: its separators removed, then the family name in mixed case. -/
def tagOfName (name : Text) : Text :=
  Text.substitute "PPI".toList "Ppi".toList (Text.substitute "::".toList [] name)

/-- The kind with a class name. Separators may stand anywhere, and a name that is a tag already
names its kind too. -/
def ofName? (name : Text) : Option Kind := ofTag? (tagOfName name)

end Kind

end PpiDump
