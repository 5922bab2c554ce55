/-!
# Why a template is refused

A fault is a line and a cause.  The causes follow the three levels of reading a template: its
delimiters, the expressions inside them, and the tags with the structures that they open and close.
The wording of every cause is fixed by `Cause.message`.
-/

namespace Lineage.Template

/-- The bracketed constructs of a template: an output shows a value, a tag gives an instruction and
a comment is dropped. -/
inductive Construct where
  | output
  | tag
  | comment
deriving DecidableEq, Repr

/-- The construct with its opening delimiter, as a fault names it. -/
def Construct.description : Construct → String
  | .output => "expression '\x7b\x7b'"
  | .tag => "tag '\x7b%'"
  | .comment => "comment '\x7b#'"

/-- The kinds of bracket in an expression. -/
inductive Bracket where
  | round
  | square
  | curly
deriving DecidableEq, Repr

/-- The opening bracket of a kind. -/
def Bracket.opening : Bracket → String
  | .round => "("
  | .square => "["
  | .curly => "\x7b"

/-- The closing bracket of a kind. -/
def Bracket.closing : Bracket → String
  | .round => ")"
  | .square => "]"
  | .curly => "\x7d"

/-- The structures that a tag opens and an end tag closes. -/
inductive Structure where
  | block
  | conditional
  | loop
  | macroBody
  | callBody
  | filterBody
  | capture
  | bindings
  | autoescape
deriving DecidableEq, Repr

/-- The word of the tag that opens the structure. -/
def Structure.keyword : Structure → String
  | .block => "block"
  | .conditional => "if"
  | .loop => "for"
  | .macroBody => "macro"
  | .callBody => "call"
  | .filterBody => "filter"
  | .capture => "set"
  | .bindings => "with"
  | .autoescape => "autoescape"

/-- What is wrong with a template. -/
inductive Cause where
  /-- A quote is opened and never closed. -/
  | unterminatedString
  /-- A delimiter is opened and never closed. -/
  | unterminated (construct : Construct)
  /-- A raw section has no end tag. -/
  | unclosedRaw
  /-- A character that begins no token of an expression. -/
  | unexpectedCharacter (c : Char)
  /-- A closing bracket that closes no bracket of its kind. -/
  | unbalanced (bracket : Bracket)
  /-- A bracket that is never closed; the innermost one is named. -/
  | unclosedBracket (bracket : Bracket)
  | emptyExpression
  | emptyTag
  | unknownTag (name : String)
  | filterWithoutName
  | includeWithoutTemplate
  | strayEndRaw
  | extendsWithoutTemplate
  | extendsTwice (first : Nat)
  | invalidBlock (declaration : String)
  | duplicateBlock (name : String)
  | mismatchedEndBlock (given expected : String)
  /-- The end tag of `expected` meets the open structure `found`. -/
  | wrongEnd (expected found : Structure) (opened : Nat)
  /-- The end tag of `expected` meets no open structure. -/
  | strayEnd (expected : Structure)
  | strayElif
  | strayElse
  | conditionExpected
  | loopWithoutIn
  | invalidLoopTarget
  | loopWithoutIterable
  | setWithoutValue
  | invalidSetTarget
  | macroWithoutName
  | callWithoutInvocation
  | parameterListExpected
  | invalidParameter
  | invalidBinding
  | importWithoutAlias
  | fromWithoutImport
  | fromWithoutTemplate
  | invalidImportList
  | superOutsideBlock
  | unclosed (structure_ : Structure)
deriving DecidableEq, Repr

/-- The wording of a cause. -/
def Cause.message : Cause → String
  | .unterminatedString => "unterminated string literal"
  | .unterminated construct => "unterminated " ++ construct.description
  | .unclosedRaw => "unclosed 'raw' tag"
  | .unexpectedCharacter c => "unexpected character '" ++ String.singleton c ++ "' in expression"
  | .unbalanced bracket => "unbalanced '" ++ bracket.closing ++ "' in expression"
  | .unclosedBracket bracket => "missing '" ++ bracket.closing ++ "' in expression"
  | .emptyExpression => "empty expression"
  | .emptyTag => "empty tag"
  | .unknownTag name => "unknown tag '" ++ name ++ "'"
  | .filterWithoutName => "filter tag requires a filter name"
  | .includeWithoutTemplate => "include requires a template name"
  | .strayEndRaw => "'endraw' without matching 'raw'"
  | .extendsWithoutTemplate => "extends requires a template name"
  | .extendsTwice first =>
    "template extends more than once (first at line " ++ toString first ++ ")"
  | .invalidBlock declaration => "invalid block declaration '" ++ declaration ++ "'"
  | .duplicateBlock name => "block '" ++ name ++ "' defined twice"
  | .mismatchedEndBlock given expected =>
    "endblock '" ++ given ++ "' does not match block '" ++ expected ++ "'"
  | .wrongEnd expected found opened =>
    "'end" ++ expected.keyword ++ "' closes '" ++ found.keyword ++ "' opened at line " ++
      toString opened
  | .strayEnd expected =>
    "'end" ++ expected.keyword ++ "' without matching '" ++ expected.keyword ++ "'"
  | .strayElif => "'elif' outside of an 'if'"
  | .strayElse => "'else' outside of an 'if' or 'for'"
  | .conditionExpected => "condition expected"
  | .loopWithoutIn => "for loop requires 'in'"
  | .invalidLoopTarget => "invalid for loop target"
  | .loopWithoutIterable => "for loop requires an iterable"
  | .setWithoutValue => "set requires a value"
  | .invalidSetTarget => "invalid set target"
  | .macroWithoutName => "macro requires a name"
  | .callWithoutInvocation => "call requires a macro invocation"
  | .parameterListExpected => "expected parameter list"
  | .invalidParameter => "invalid parameter"
  | .invalidBinding => "invalid with binding"
  | .importWithoutAlias => "import requires 'as <name>'"
  | .fromWithoutImport => "from requires 'import'"
  | .fromWithoutTemplate => "from requires a template name"
  | .invalidImportList => "invalid import list"
  | .superOutsideBlock => "super() used outside of a block"
  | .unclosed structure_ => "unclosed '" ++ structure_.keyword ++ "' tag"

/-- A cause and the line, counted from one, at which it arises. -/
structure Fault where
  line : Nat
  cause : Cause
deriving DecidableEq, Repr

end Lineage.Template
