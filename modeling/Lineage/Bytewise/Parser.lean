import Lineage.Bytewise.Reading
import Lineage.Bytewise.Segment
import Lineage.Failure

/-!
# Templates by positions

The segments of a template are read from first to last.  The parts of a tag are slices of its list
of tokens.  An open block is known by the index of its node, by which a call of `super()` marks it,
and the first `extends` tag by the index of its own.
-/

namespace Lineage.Bytewise

open Lineage.Text Lineage.Template

/-- An open structure, and the index of its node if it is a block. -/
structure PlacedFrame where
  frame : Frame
  node? : Option Nat
deriving DecidableEq, Repr

/-- What is known after a part of a template has been read. -/
structure Parser where
  nodes : List Node
  /-- The open structures, innermost first. -/
  frames : List PlacedFrame
  blockNames : List String
  /-- The line of the first `extends` tag and the index of its node. -/
  extends? : Option (Nat × Nat)
  /-- Whether an `extends` tag stood inside an open structure. -/
  nestedExtends : Bool
deriving DecidableEq, Repr

/-! ## Parts of tags -/

/-- The word that the list consists of. -/
def onlyWord? : List PlacedToken → Option String
  | [token] => token.word?
  | _ => none

/-- What stands between the two brackets if the list begins with one and ends with one. -/
def withinRound? : List PlacedToken → Option (List PlacedToken)
  | [] => none
  | first :: rest =>
    match rest.getLast? with
    | none => none
    | some last =>
      if first.isSign "(" && last.isSign ")" then some rest.dropLast else none

/-- The names in a target, which may stand in brackets, if it is one. -/
def targetNames (tokens : List PlacedToken) : Option (Option (List String)) := do
  let parts ← cutAtCommas ((withinRound? tokens).getD tokens)
  return parts.mapM onlyWord?

/-- The range of a loop, without the word `recursive` at its end. -/
def loopRange (rest : List PlacedToken) : Option (List PlacedToken) :=
  if rest.getLast?.any (·.isWord "recursive") then do
    let stop ← minus? rest.length 1
    part? rest 0 stop
  else return rest

/-- What a loop iterates over, and its filter. -/
def loopParts (range : List PlacedToken) :
    Option (List PlacedToken × Option (List PlacedToken)) :=
  match findFrom? (·.isWord "if") 0 0 range with
  | some condition => do
    let iterable ← part? range 0 condition
    let filter ← part? range (condition + 1) range.length
    return (iterable, some filter)
  | none => return (range, none)

/-- A name, and the tokens of the value that is given to it. -/
structure PlacedBinding where
  name : String
  value : List PlacedToken

/-- A binding `name = value`. -/
def binding? : List PlacedToken → Option PlacedBinding
  | name :: equals :: value =>
    if equals.isSign "=" && !value.isEmpty then name.word?.map (⟨·, value⟩) else none
  | _ => none

/-- A parameter: nothing, a name, or a name with its default. -/
def parameter? (part : List PlacedToken) : Option (List PlacedBinding) :=
  match part with
  | [] => some []
  | [name] => name.word?.map fun word => [⟨word, []⟩]
  | _ => (binding? part).map ([·])

/-- The position behind the tokens in front of `stop` that are no modifiers of an inclusion or an
import. -/
def modifiersStart (tokens : List PlacedToken) (stop : Nat) : Option Nat := do
  let front ← part? tokens 0 stop
  match front.reverse with
  | second :: first :: _ =>
    if ((first.isWord "with" || first.isWord "without") && second.isWord "context") ||
        (first.isWord "ignore" && second.isWord "missing") then
      let fewer ← minus? stop 2
      let ⟨_⟩ ← isBelow? fewer stop
      modifiersStart tokens fewer
    else return stop
  | _ => return stop
termination_by stop

/-- The list without the modifiers of an inclusion or an import at its end. -/
def withoutModifiers (tokens : List PlacedToken) : Option (List PlacedToken) := do
  let stop ← modifiersStart tokens tokens.length
  part? tokens 0 stop

/-- The name that an item of an import list binds. -/
def importedName? : List PlacedToken → Option String
  | [name] => name.word?
  | [name, word, alias_] =>
    if name.word?.isSome && word.isWord "as" then alias_.word? else none
  | _ => none

namespace Parser

/-- What is known before anything has been read. -/
def empty : Parser :=
  ⟨[], [], [], none, false⟩

section Steps

variable (parser : Parser) (line : Nat)

/-! ## Structures and names -/

/-- Opens a structure other than a block. -/
def enter (opened : Opened) (names : List String) : Parser :=
  { parser with frames := ⟨⟨opened, line, names⟩, none⟩ :: parser.frames }

/-- Binds names in the innermost frame that holds assignments, if there is one. -/
def bindInnermost? (names : List String) : List PlacedFrame → Option (List PlacedFrame)
  | [] => none
  | ⟨frame, node?⟩ :: frames =>
    if frame.opened.kind.holdsAssignments then
      some (⟨{ frame with bound := frame.bound ++ names }, node?⟩ :: frames)
    else (bindInnermost? names frames).map (⟨frame, node?⟩ :: ·)

/-- Binds names in the innermost structure that holds assignments, or in the template. -/
def assign (names : List String) : Parser :=
  match bindInnermost? names parser.frames with
  | some frames => { parser with frames := frames }
  | none => { parser with nodes := parser.nodes ++ names.map (.assign · line) }

/-- Marks the innermost open block as one that calls `super()`. -/
def markSuper : Checked Template.Cause Parser :=
  match parser.frames.findSome? (·.node?) with
  | none => throw .superOutsideBlock
  | some index => do
    let node ← (parser.nodes[index]? : Option Node)
    match node with
    | .block site =>
      let nodes ← set? parser.nodes index (.block { site with callsSuper := true })
      return { parser with nodes := nodes }
    | _ => throw .superOutsideBlock

/-- Reads a part of an expression: a call of `super()` marks a block, and reads become nodes. -/
def scan (source : List Char) (tokens : List PlacedToken) (context : Context) :
    Checked Template.Cause Parser := do
  let found ← Bytewise.scan source tokens context (parser.frames.flatMap (·.frame.bound))
  let after ← if found.callsSuper then markSuper parser else pure parser
  let reads := found.occurrences.map fun occurrence =>
    let guard :=
      if occurrence.guard = .bare && parser.frames.any (·.frame.tests occurrence.name)
      then .conditional else occurrence.guard
    .read occurrence.name guard line
  return { after with nodes := after.nodes ++ reads }

/-! ## The tags -/

/-- Reads a test, and gives the names that it reads. -/
def condition (text : List Char) : Checked Template.Cause (Parser × List String) := do
  let tokens ← tokensOf text
  if tokens.isEmpty then throw .conditionExpected
  let after ← scan parser line text tokens .test
  let reads ← part? after.nodes parser.nodes.length after.nodes.length
  return (after, reads.filterMap fun node => node.read?.map Prod.fst)

def openIf (text : List Char) : Checked Template.Cause Parser := do
  let (after, tested) ← condition parser line text
  return enter after line (.conditional tested false) []

def elif (text : List Char) : Checked Template.Cause Parser :=
  match parser.frames with
  | ⟨⟨.conditional _ false, _, _⟩, _⟩ :: _ => do
    let (after, tested) ← condition parser line text
    match after.frames with
    | ⟨⟨.conditional _ inElse, opened, names⟩, node?⟩ :: frames =>
      return { after with
        frames := ⟨⟨.conditional tested inElse, opened, names⟩, node?⟩ :: frames }
    | _ => return after
  | _ => throw .strayElif

def elseBranch : Checked Template.Cause Parser :=
  match parser.frames with
  | ⟨⟨.conditional _ false, opened, names⟩, node?⟩ :: frames =>
    return { parser with frames := ⟨⟨.conditional [] true, opened, names⟩, node?⟩ :: frames }
  | ⟨⟨.loop, _, _⟩, _⟩ :: _ => return parser
  | _ => throw .strayElse

/-- The parent that an `extends` tag names. -/
def parentOf (text : List Char) (tokens : List PlacedToken) : Option Parent :=
  let written := String.ofList text
  match parser.frames with
  | frame :: _ =>
    return .dynamic (written ++ " (inside '" ++ frame.frame.opened.kind.keyword ++ "')")
  | [] =>
    match tokens with
    | [only] =>
      if only.kind = .literal then do
        let name ← only.unquoted
        return .literal (String.ofList name)
      else return .dynamic written
    | _ => return .dynamic written

def extend (text : List Char) : Checked Template.Cause Parser := do
  let tokens ← tokensOf text
  if tokens.isEmpty then throw .extendsWithoutTemplate
  match parser.extends? with
  | some (first, index) =>
    if parser.frames.isEmpty && !parser.nestedExtends then throw (.extendsTwice first)
    let nodes :=
      match parser.nodes[index]? with
      | some node => parser.nodes.set index (node.addParent (String.ofList text))
      | none => parser.nodes
    return { parser with
      nodes := nodes, nestedExtends := parser.nestedExtends || !parser.frames.isEmpty }
  | none =>
    let parent ← parentOf parser text tokens
    return { parser with
      nodes := parser.nodes ++ [.extends parent line],
      extends? := some (line, parser.nodes.length),
      nestedExtends := !parser.frames.isEmpty }

def block (text : List Char) : Checked Template.Cause Parser := do
  let tokens ← tokensOf text
  match tokens with
  | [] => throw (.invalidBlock (String.ofList text))
  | first :: modifiers =>
    match first.word? with
    | none => throw (.invalidBlock (String.ofList text))
    | some name =>
      if modifiers.all fun token => token.isWord "scoped" || token.isWord "required" then
        if parser.blockNames.contains name then throw (.duplicateBlock name)
        else
          let site : Block := ⟨name, false, parser.frames.findSome? (·.frame.block?), line⟩
          return { parser with
            nodes := parser.nodes ++ [.block site],
            blockNames := parser.blockNames ++ [name],
            frames := ⟨⟨.block name, line, []⟩, some parser.nodes.length⟩ :: parser.frames }
      else throw (.invalidBlock (String.ofList text))

def endBlock (text : List Char) : Checked Template.Cause Parser :=
  match parser.frames with
  | [] => throw (.strayEnd .block)
  | ⟨frame, _⟩ :: frames =>
    match frame.block? with
    | some name =>
      if text.isEmpty ∨ String.ofList text = name then return { parser with frames := frames }
      else throw (.mismatchedEndBlock (String.ofList text) name)
    | none => throw (.wrongEnd .block frame.opened.kind frame.line)

def openFor (text : List Char) : Checked Template.Cause Parser := do
  let tokens ← tokensOf text
  match findFrom? (·.isWord "in") 0 0 tokens with
  | none => throw .loopWithoutIn
  | some position =>
    let target ← part? tokens 0 position
    match ← targetNames target with
    | none => throw .invalidLoopTarget
    | some names =>
      let rest ← part? tokens (position + 1) tokens.length
      let range ← loopRange rest
      let (iterable, filter) ← loopParts range
      if iterable.isEmpty then throw .loopWithoutIterable
      let after ← scan parser line text iterable .plain
      let entered := enter after line .loop names
      match filter with
      | some filter => scan entered line text filter .test
      | none => return entered

def set (text : List Char) : Checked Template.Cause Parser := do
  let tokens ← tokensOf text
  match findFrom? (·.isSign "=") 0 0 tokens with
  | some position =>
    if position + 1 = tokens.length then throw .setWithoutValue
    let targets ← part? tokens 0 position
    let value ← part? tokens (position + 1) tokens.length
    let after ← scan parser line text value .plain
    if targets.any (·.isSign ".") then return after
    else
      match ← targetNames targets with
      | some names => return assign after line names
      | none => throw .invalidSetTarget
  | none =>
    let bar := (tokens.findIdx? (·.isSign "|")).getD tokens.length
    let target ← part? tokens 0 bar
    match ← targetNames target with
    | none => throw .invalidSetTarget
    | some names =>
      let after ←
        if bar < tokens.length then do
          let filters ← part? tokens bar tokens.length
          scan parser line text filters .plain
        else pure parser
      return enter after line (.capture names) []

/-- Reads the values in a list of bindings, and gives the names that it binds. -/
def bindings (item? : List PlacedToken → Option (List PlacedBinding)) (refusal : Template.Cause)
    (text : List Char) (parser : Parser) (names : List String) :
    List (List PlacedToken) → Checked Template.Cause (Parser × List String)
  | [] => return (parser, names)
  | part :: parts =>
    match item? part with
    | none => throw refusal
    | some found => do
      let after ← (found.filter (!·.value.isEmpty)).foldlM
        (fun after bound => scan after line text bound.value .plain) parser
      bindings item? refusal text after (names ++ found.map (·.name)) parts

/-- Reads a parameter list in round brackets, and gives the names in it. -/
def parameters (text : List Char) (tokens : List PlacedToken) :
    Checked Template.Cause (Parser × List String) := do
  match withinRound? tokens with
  | none => throw .parameterListExpected
  | some inner =>
    let parts ← cutAtCommas inner
    bindings line parameter? .invalidParameter text parser [] parts

def openMacro (text : List Char) : Checked Template.Cause Parser := do
  let tokens ← tokensOf text
  match tokens with
  | [] => throw .macroWithoutName
  | first :: rest =>
    match first.word? with
    | none => throw .macroWithoutName
    | some name =>
      let (after, names) ← parameters parser line text rest
      return enter (assign after line [name]) line .macroBody names

def openCall (text : List Char) : Checked Template.Cause Parser := do
  let tokens ← tokensOf text
  let (after, names, invocation) ←
    if tokens.head?.any (·.isSign "(") then do
      let close := groupEnd tokens 0
      let arguments ← part? tokens 0 close
      let (after, names) ← parameters parser line text arguments
      let invocation ← part? tokens close tokens.length
      pure (after, names, invocation)
    else pure (parser, [], tokens)
  if invocation.isEmpty then throw .callWithoutInvocation
  let called ← scan after line text invocation .plain
  return enter called line .callBody names

def openFilter (text : List Char) : Checked Template.Cause Parser := do
  let tokens ← tokensOf text
  if tokens.head?.any (·.word?.isSome) then
    let after ← scan parser line text tokens .filter
    return enter after line .filterBody []
  else throw .filterWithoutName

def openWith (text : List Char) : Checked Template.Cause Parser := do
  let tokens ← tokensOf text
  if tokens.isEmpty then return enter parser line .bindings []
  else
    let parts ← cutAtCommas tokens
    let (after, names) ← bindings line (fun part => (binding? part).map ([·])) .invalidBinding
      text parser [] parts
    return enter after line .bindings names

def openAutoescape (text : List Char) : Checked Template.Cause Parser := do
  let tokens ← tokensOf text
  let after ← scan parser line text tokens .plain
  return enter after line .autoescape []

def includeTemplate (text : List Char) : Checked Template.Cause Parser := do
  let tokens ← tokensOf text
  let stop ← modifiersStart tokens tokens.length
  if stop = 0 then throw .includeWithoutTemplate
  let named ← part? tokens 0 stop
  scan parser line text named .plain

def importTemplate (text : List Char) : Checked Template.Cause Parser := do
  let tokens ← tokensOf text
  let named ← withoutModifiers tokens
  match named.reverse with
  | alias_ :: word :: template =>
    match alias_.word? with
    | some name =>
      if word.isWord "as" && !template.isEmpty then
        let after ← scan parser line text template.reverse .plain
        return assign after line [name]
      else throw .importWithoutAlias
    | none => throw .importWithoutAlias
  | _ => throw .importWithoutAlias

def fromImport (text : List Char) : Checked Template.Cause Parser := do
  let tokens ← tokensOf text
  let tokens ← withoutModifiers tokens
  match findFrom? (·.isWord "import") 0 0 tokens with
  | none => throw .fromWithoutImport
  | some position =>
    if position = 0 then throw .fromWithoutTemplate
    let template ← part? tokens 0 position
    let after ← scan parser line text template .plain
    let list ← part? tokens (position + 1) tokens.length
    let items ← cutAtCommas list
    match items.mapM importedName? with
    | none => throw .invalidImportList
    -- No list is cut into no parts, and the reading breaks off if one were.
    | some [] => liftM (none : Option Parser)
    | some names => return assign after line names

/-- Closes the innermost structure, which has to be one that the end tag of `expected` closes. -/
def close (expected : Structure) : Checked Template.Cause Parser := do
  let name := "end".toList ++ expected.keyword.toList
  let keyword ← slice? name 3 (byteLength name)
  match parser.frames with
  | [] => throw (.strayEnd expected)
  | ⟨frame, _⟩ :: frames =>
    if frame.opened.kind.keyword.toList = keyword then
      let outside : Parser := { parser with frames := frames }
      match frame.opened with
      | .capture names => return assign outside line names
      | _ => return outside
    else throw (.wrongEnd expected frame.opened.kind frame.line)

def output (body : List Char) : Checked Template.Cause Parser := do
  if body.isEmpty then throw .emptyExpression
  let tokens ← tokensOf body
  scan parser line body tokens .plain

def tag (body : List Char) : Checked Template.Cause Parser := do
  let stop := (offset? (!continuesTagName ·) body).getD (byteLength body)
  let (name, rest) ← splitAtByte? stop body
  let argument := trim rest
  match String.ofList name with
  | "" => throw .emptyTag
  | "extends" => extend parser line argument
  | "block" => block parser line argument
  | "endblock" => endBlock parser argument
  | "if" => openIf parser line argument
  | "elif" => elif parser line argument
  | "else" => elseBranch parser
  | "for" => openFor parser line argument
  | "set" => set parser line argument
  | "macro" => openMacro parser line argument
  | "call" => openCall parser line argument
  | "filter" => openFilter parser line argument
  | "with" => openWith parser line argument
  | "autoescape" => openAutoescape parser line argument
  | "include" => includeTemplate parser line argument
  | "import" => importTemplate parser line argument
  | "from" => fromImport parser line argument
  | "endif" => close parser line .conditional
  | "endfor" => close parser line .loop
  | "endmacro" => close parser line .macroBody
  | "endcall" => close parser line .callBody
  | "endfilter" => close parser line .filterBody
  | "endset" => close parser line .capture
  | "endwith" => close parser line .bindings
  | "endautoescape" => close parser line .autoescape
  | "endraw" => throw .strayEndRaw
  | name => throw (.unknownTag name)

end Steps

/-! ## Whole templates -/

/-- Reads one more segment. -/
def segment (parser : Parser) : Segment → Checked Fault Parser
  | .text run line => return { parser with nodes := parser.nodes ++ [.text (byteLength run) line] }
  | .output body line => (output parser line body).adapt (Fault.mk line)
  | .tag body line => (tag parser line body).adapt (Fault.mk line)
  | .comment _ _ => return parser

/-- The nodes of a template. -/
def nodesOf (text : List Char) : Checked Fault (List Node) := do
  let parts ← segmentsFrom text 0 1
  let parser ← parts.foldlM segment empty
  match parser.frames with
  | [] => return parser.nodes
  | ⟨frame, _⟩ :: _ => throw ⟨frame.line, .unclosed frame.opened.kind⟩

end Parser

/-- The structural record of the template `name` with the given text, read by positions. -/
def parseTemplate (name : String) (text : List Char) : Checked Failure Parsed := do
  let nodes ← (Parser.nodesOf text).adapt fun fault =>
    .parse name fault.line fault.cause.message
  match nodes.findSome? Node.dynamicParent? with
  | some expression => throw (.ambiguousExtends name expression)
  | none => return ⟨name, nodes⟩

end Lineage.Bytewise
