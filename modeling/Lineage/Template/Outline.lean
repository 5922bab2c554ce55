import Lineage.Template.Effect
import Lineage.Template.Segment

/-!
# The outline of a template

The segments of a template are read from first to last.  The state is the list of nodes so far and
the stack of open structures, innermost first.  The stack decides three things about a read: whether
a binding hides it, whether a condition around it tests the same name, and to which block a call of
`super()` belongs.

Nodes are only ever added at the end.  Two later events change one that is there: a call of
`super()` marks the block around it, and a second `extends` tag makes the parent a dynamic one.
-/

namespace Lineage.Template

open Lineage.Text

/-- An open structure, the line of its tag and the names bound in it. -/
structure Frame where
  opened : Opened
  line : Nat
  bound : List String
deriving DecidableEq, Repr

/-- The name of the block that the frame is. -/
def Frame.block? (frame : Frame) : Option String :=
  match frame.opened with
  | .block name => some name
  | _ => none

/-- Whether the frame is a condition whose open branch is guarded by a test of the name. -/
def Frame.tests (frame : Frame) (name : String) : Bool :=
  match frame.opened with
  | .conditional tested inElse => !inElse && tested.contains name
  | _ => false

/-- Binds names in the innermost frame that holds assignments, if there is one. -/
def bindInnermost? (names : List String) : List Frame → Option (List Frame)
  | [] => none
  | frame :: frames =>
    if frame.opened.kind.holdsAssignments then
      some ({ frame with bound := frame.bound ++ names } :: frames)
    else (bindInnermost? names frames).map (frame :: ·)

/-- Marks the block `name` as one that calls `super()`. -/
def Node.markSuper (name : String) : Node → Node
  | .block site => .block (if site.name = name then { site with callsSuper := true } else site)
  | node => node

/-- The parent as the text of an expression. -/
def Parent.expression : Parent → String
  | .literal name => "\"" ++ name ++ "\""
  | .dynamic expression => expression

/-- Adds an alternative to the parent that an `extends` node names. -/
def Node.addParent (expression : String) : Node → Node
  | .extends parent line => .extends (.dynamic (parent.expression ++ " | " ++ expression)) line
  | node => node

/-- What is known after a part of a template has been read. -/
structure Outline where
  nodes : List Node
  /-- The open structures, innermost first. -/
  frames : List Frame
  /-- Whether an `extends` tag stood inside an open structure. -/
  nestedExtends : Bool
deriving DecidableEq, Repr

namespace Outline

/-- What is known before anything has been read. -/
def empty : Outline :=
  ⟨[], [], false⟩

/-- Adds nodes at the end. -/
def add (outline : Outline) (nodes : List Node) : Outline :=
  { outline with nodes := outline.nodes ++ nodes }

/-- The names that the open structures bind. -/
def bound (outline : Outline) : List String :=
  outline.frames.flatMap Frame.bound

/-- The name of the innermost open block. -/
def innermostBlock? (outline : Outline) : Option String :=
  outline.frames.findSome? Frame.block?

/-- Whether an open branch is guarded by a test of the name. -/
def isTested (outline : Outline) (name : String) : Bool :=
  outline.frames.any (·.tests name)

/-- The node of a read at `line`: one that the expression leaves bare is conditional if an open
branch is guarded by a test of the same name. -/
def readNode (outline : Outline) (line : Nat) (occurrence : Occurrence) : Node :=
  let guard :=
    if occurrence.guard = .bare && outline.isTested occurrence.name then .conditional
    else occurrence.guard
  .read occurrence.name guard line

/-- Reads an expression: its calls of `super()` mark the innermost open block, and its reads become
nodes. -/
def read (outline : Outline) (line : Nat) (expression : Expression) (context : Context) :
    Except Cause Outline := do
  let nodes := (expression.occurrences context outline.bound).map (outline.readNode line)
  if expression.callsSuper then
    match outline.innermostBlock? with
    | none => throw .superOutsideBlock
    | some block =>
      return { outline with nodes := outline.nodes.map (Node.markSuper block) ++ nodes }
  else return outline.add nodes

/-- Binds names: inside the innermost structure that holds assignments, or else as assignments of
the template. -/
def bind (outline : Outline) (line : Nat) (names : List String) : Outline :=
  match bindInnermost? names outline.frames with
  | some frames => { outline with frames := frames }
  | none => outline.add (names.map (.assign · line))

/-- Opens a structure. -/
def enter (outline : Outline) (line : Nat) (opened : Opened) (names : List String) : Outline :=
  { outline with frames := ⟨opened, line, names⟩ :: outline.frames }

/-- The parent that an `extends` tag with the argument names inside the structures `frames`. -/
def parentOf (frames : List Frame) (expression : Expression) : Parent :=
  let written := String.ofList expression.source
  match frames with
  | frame :: _ => .dynamic (written ++ " (inside '" ++ frame.opened.kind.keyword ++ "')")
  | [] =>
    match expression.tokens with
    | [⟨.literal _ inner, _⟩] => .literal (String.ofList inner)
    | _ => .dynamic written

/-- Reads an `extends` tag.  A second one is refused outside all structures, and otherwise adds an
alternative to the parent. -/
def extend (outline : Outline) (line : Nat) (expression : Expression) : Except Cause Outline :=
  let nested := outline.nestedExtends || !outline.frames.isEmpty
  match outline.nodes.find? (·.parent?.isSome) with
  | some first =>
    if nested then
      let written := String.ofList expression.source
      let nodes := outline.nodes.map (Node.addParent written)
      .ok { outline with nodes := nodes, nestedExtends := nested }
    else .error (.extendsTwice first.line)
  | none =>
    .ok { outline with
      nodes := outline.nodes ++ [.extends (parentOf outline.frames expression) line],
      nestedExtends := nested }

/-- Defines a block and opens it. -/
def define (outline : Outline) (line : Nat) (name : String) : Except Cause Outline :=
  if outline.nodes.any fun node => node.block?.any (·.name == name) then
    .error (.duplicateBlock name)
  else
    .ok ((outline.add [.block ⟨name, false, outline.innermostBlock?, line⟩]).enter line
      (.block name) [])

/-- Closes the innermost structure, which has to be of the kind `expected`. -/
def leave (outline : Outline) (line : Nat) (expected : Structure) : Except Cause Outline :=
  match outline.frames with
  | [] => .error (.strayEnd expected)
  | frame :: frames =>
    let outside := { outline with frames := frames }
    if frame.opened.kind = expected then
      match frame.opened with
      | .capture names => .ok (outside.bind line names)
      | _ => .ok outside
    else .error (.wrongEnd expected frame.opened.kind frame.line)

/-- Closes the innermost structure, which has to be a block, and the block `name` unless that is
empty. -/
def leaveBlock (outline : Outline) (line : Nat) (name : String) : Except Cause Outline :=
  match outline.frames.head?.bind Frame.block? with
  | some block =>
    if name = "" ∨ name = block then outline.leave line .block
    else .error (.mismatchedEndBlock name block)
  | none => outline.leave line .block

/-- Accepts an outline whose innermost structure is a condition before its `else`. -/
def expectBranch (outline : Outline) : Except Cause Outline :=
  match outline.frames with
  | ⟨.conditional _ false, _, _⟩ :: _ => .ok outline
  | _ => .error .strayElif

/-- Begins the `else` branch of a condition that has none yet, or of a loop. -/
def otherwise (outline : Outline) : Except Cause Outline :=
  match outline.frames with
  | ⟨.conditional _ false, line, names⟩ :: frames =>
    .ok { outline with frames := ⟨.conditional [] true, line, names⟩ :: frames }
  | ⟨.loop, _, _⟩ :: _ => .ok outline
  | _ => .error .strayElse

/-- Reads the test of the innermost structure, a condition.  The names that it reads guard the
branch behind it, in place of those that guarded the branch before. -/
def test (outline : Outline) (line : Nat) (expression : Expression) : Except Cause Outline := do
  let tested := (expression.occurrences .test outline.bound).map (·.name)
  let after ← outline.read line expression .test
  match after.frames with
  | ⟨.conditional _ inElse, opened, names⟩ :: frames =>
    return { after with frames := ⟨.conditional tested inElse, opened, names⟩ :: frames }
  | _ => return after

/-- The outline after one effect of a tag at `line`. -/
def apply (outline : Outline) (line : Nat) : Effect → Except Cause Outline
  | .refuse cause => .error cause
  | .read expression context => outline.read line expression context
  | .test expression => outline.test line expression
  | .expectBranch => outline.expectBranch
  | .otherwise => outline.otherwise
  | .extend expression => outline.extend line expression
  | .define block => outline.define line block
  | .enter opened names => .ok (outline.enter line opened names)
  | .leaveBlock name => outline.leaveBlock line name
  | .leave kind => outline.leave line kind
  | .bind names => .ok (outline.bind line names)

/-- The outline after the effects of a tag at `line`. -/
def applyAll (outline : Outline) (line : Nat) (effects : List Effect) : Except Fault Outline :=
  let applied := effects.foldlM
    (fun (current : Outline) effect => current.apply line effect) outline
  applied.mapError (⟨line, ·⟩)

/-- The outline after one more segment. -/
def segment (outline : Outline) : Segment → Except Fault Outline
  | .text run line => .ok (outline.add [.text (byteLength run) line])
  | .output body line => outline.applyAll line (Effect.ofOutput body)
  | .tag body line => outline.applyAll line (Effect.ofTag body)
  | .comment _ _ => .ok outline

/-- The outline after a list of segments. -/
def segments (outline : Outline) (parts : List Segment) : Except Fault Outline :=
  parts.foldlM Outline.segment outline

/-- The nodes of an outline in which nothing is left open. -/
def finish (outline : Outline) : Except Fault (List Node) :=
  match outline.frames with
  | [] => .ok outline.nodes
  | frame :: _ => .error ⟨frame.line, .unclosed frame.opened.kind⟩

end Outline

/-- The nodes of a template. -/
def Node.ofTemplate (template : List Char) : Except Fault (List Node) := do
  let parts ← Segment.ofTemplate template
  let outline ← Outline.empty.segments parts
  outline.finish

end Lineage.Template
