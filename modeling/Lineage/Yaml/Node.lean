import Lineage.Yaml.Token

/-!
# The tree of a YAML document

The tokens of a stream are read as the tree of its only document.  An alias stands for the node with
its anchor, which has to be complete by then.  A stream with a second document is refused, and so is
one whose aliases, followed one into another, are too many, or whose tree is too deep.
-/

namespace Lineage.Yaml

/-- A node of a document, with the tag that it carries. -/
inductive Node where
  | scalar (tag : Option String) (style : Style) (text : String)
  | sequence (tag : Option String) (items : List Node)
  | mapping (tag : Option String) (pairs : List (Node × Node))
deriving Repr

/-- The node that stands where nothing is written. -/
def Node.nothing (tag : Option String) : Node :=
  .scalar tag .plain ""

/-- A node with an anchor, and how often following its aliases leads to another node. -/
structure Anchored where
  node : Node
  jumps : Nat

/-- What is known of the document apart from its tokens. -/
structure Context where
  /-- The prefixes that the handles of tags stand for. -/
  handles : List (String × String)
  /-- The anchors, of which those that are not complete yet have no node. -/
  anchors : List (String × Option Anchored)
  /-- The number of nodes and of ends of collections so far. -/
  events : Nat
  /-- How often an alias has been followed so far. -/
  jumps : Nat

/-- A node, the tokens behind it and what is known then. -/
abbrev Composed := Node × List Token × Context

namespace Context

/-- Counts `count` more events. -/
def count (context : Context) (count : Nat) : Context :=
  { context with events := context.events + count }

/-- Says that an anchor is not complete yet. -/
def open_ (context : Context) : Option String → Context
  | none => context
  | some name => { context with anchors := (name, none) :: context.anchors }

/-- Says that an anchor is complete. -/
def close (context : Context) (before : Nat) (node : Node) : Option String → Context
  | none => context
  | some name =>
    { context with anchors := (name, some ⟨node, context.jumps - before⟩) :: context.anchors }

end Context

/-- The tag with a handle and a suffix. -/
def resolveTag? (context : Context) (handle suffix : String) : Option String :=
  if handle.isEmpty then some suffix
  else (context.handles.find? (·.1 == handle)).map fun found => found.2 ++ suffix

/-- The anchor and the tag in front of a node, in either order. -/
def properties? (context : Context) (tokens : List Token) :
    Option (Option String × Option String × List Token) := do
  match tokens with
  | .anchor name :: .tag handle suffix :: rest =>
    let tag ← resolveTag? context handle suffix
    return (some name, some tag, rest)
  | .tag handle suffix :: .anchor name :: rest =>
    let tag ← resolveTag? context handle suffix
    return (some name, some tag, rest)
  | .anchor name :: rest => return (some name, none, rest)
  | .tag handle suffix :: rest =>
    let tag ← resolveTag? context handle suffix
    return (none, some tag, rest)
  | _ => return (none, none, tokens)

/-- Where a collection is read, and how its end looks. -/
inductive Collection where
  | blockSequence
  /-- A block sequence without indentation of its own, as the value of a key. -/
  | looseSequence
  | blockMapping
  | flowSequence
  | flowMapping
deriving DecidableEq

/-- Whether the token ends the value of a block mapping without one being there. -/
def endsBlockValue : List Token → Bool
  | .key :: _ | .value :: _ | .blockEnd :: _ => true
  | _ => false

/-- Whether the token ends a part of a flow mapping. -/
def endsFlowPart (tokens : List Token) : Bool :=
  match tokens with
  | .flowEntry :: _ | .flowMappingEnd :: _ => true
  | _ => false

/-- Whether the token ends a part of a flow sequence. -/
def endsFlowItem (tokens : List Token) : Bool :=
  match tokens with
  | .flowEntry :: _ | .flowSequenceEnd :: _ => true
  | _ => false

/-- The tokens behind the comma that separates the parts of a flow collection. -/
def separated? (isFirst : Bool) (tokens : List Token) : Option (List Token) :=
  if isFirst then some tokens
  else
    match tokens with
    | .flowEntry :: rest => some rest
    | _ => none

mutual

/-- Reads a node.  The fuel bounds the number of nodes. -/
def node? (fuel : Nat) (inBlock loose : Bool) (context : Context) (tokens : List Token) :
    Option Composed :=
  match fuel with
  | 0 => none
  | fuel + 1 =>
    match tokens with
    | .alias_ name :: rest =>
      match context.anchors.find? (·.1 == name) with
      | some (_, some found) =>
        some (found.node, rest,
          { context with events := context.events + 1, jumps := context.jumps + found.jumps + 1 })
      | _ => none
    | _ => do
      let (anchor, tag, content) ← properties? context tokens
      let started := context.open_ anchor
      let (node, rest, after) ← content? fuel inBlock loose tag started content
        (anchor.isSome || tag.isSome)
      return (node, rest, after.close context.jumps node anchor)

/-- Reads the content of a node behind its anchor and tag. -/
def content? (fuel : Nat) (inBlock loose : Bool) (tag : Option String) (context : Context)
    (tokens : List Token) (mayBeEmpty : Bool) : Option Composed :=
  match fuel with
  | 0 => none
  | fuel + 1 =>
    let sequence (kind : Collection) (rest : List Token) : Option Composed := do
      let (items, behind, after) ← items? fuel kind true context rest
      return (.sequence tag items, behind, after.count 2)
    let mapping (kind : Collection) (rest : List Token) : Option Composed := do
      let (pairs, behind, after) ← pairs? fuel kind true context rest
      return (.mapping tag pairs, behind, after.count 2)
    match tokens with
    | .scalar text style :: rest =>
      -- The tag of one exclamation mark is no tag.
      let kept := if tag == some "!" then none else tag
      some (.scalar kept style text, rest, context.count 1)
    | .flowSequenceStart :: rest => sequence .flowSequence rest
    | .flowMappingStart :: rest => mapping .flowMapping rest
    | .blockSequenceStart :: rest => if inBlock then sequence .blockSequence rest else none
    | .blockMappingStart :: rest => if inBlock then mapping .blockMapping rest else none
    | .blockEntry :: _ =>
      if loose then sequence .looseSequence tokens
      else if mayBeEmpty then some (.nothing tag, tokens, context.count 1)
      else none
    | _ => if mayBeEmpty then some (.nothing tag, tokens, context.count 1) else none

/-- Reads a node unless `absent`, in which case nothing is written. -/
def nodeUnless? (fuel : Nat) (absent inBlock loose : Bool) (context : Context)
    (tokens : List Token) : Option Composed :=
  match fuel with
  | 0 => none
  | fuel + 1 =>
    if absent then some (.nothing none, tokens, context.count 1)
    else node? fuel inBlock loose context tokens

/-- Reads the items of a sequence up to its end. -/
def items? (fuel : Nat) (kind : Collection) (isFirst : Bool) (context : Context)
    (tokens : List Token) : Option (List Node × List Token × Context) :=
  match fuel with
  | 0 => none
  | fuel + 1 =>
    match kind, tokens with
    | .blockSequence, .blockEntry :: rest => do
      let absent := match rest with
        | .blockEntry :: _ | .blockEnd :: _ => true
        | _ => false
      let (item, behind, after) ← nodeUnless? fuel absent true false context rest
      let (items, last, final) ← items? fuel kind false after behind
      return (item :: items, last, final)
    | .blockSequence, .blockEnd :: rest => some ([], rest, context)
    | .looseSequence, .blockEntry :: rest => do
      let absent := match rest with
        | .blockEntry :: _ | .key :: _ | .value :: _ | .blockEnd :: _ => true
        | _ => false
      let (item, behind, after) ← nodeUnless? fuel absent true false context rest
      let (items, last, final) ← items? fuel kind false after behind
      return (item :: items, last, final)
    | .looseSequence, rest => some ([], rest, context)
    | .flowSequence, .flowSequenceEnd :: rest => some ([], rest, context)
    | .flowSequence, rest => do
      let start ← separated? isFirst rest
      match start with
      | .flowSequenceEnd :: last => return ([], last, context)
      | .key :: pair =>
        let (item, behind, after) ← singlePair? fuel context pair
        let (items, last, final) ← items? fuel kind false after behind
        return (item :: items, last, final)
      | item =>
        let (item, behind, after) ← node? fuel false false context item
        let (items, last, final) ← items? fuel kind false after behind
        return (item :: items, last, final)
    | _, _ => none

/-- Reads a pair that stands as an item in a flow sequence, behind the mark of its key. -/
def singlePair? (fuel : Nat) (context : Context) (tokens : List Token) : Option Composed :=
  match fuel with
  | 0 => none
  | fuel + 1 => do
    let absent := endsFlowItem tokens || tokens.head? == some .value
    -- Where a key is missing, the token that shows it is passed over.
    let (key, behind, after) ←
      if absent then some (Node.nothing none, tokens.tail, context.count 1)
      else node? fuel false false context tokens
    let (value, last, final) ←
      match behind with
      | .value :: rest => nodeUnless? fuel (endsFlowItem rest) false false after rest
      | rest => nodeUnless? fuel true false false after rest
    return (.mapping none [(key, value)], last, final.count 2)

/-- Reads the pairs of a mapping up to its end. -/
def pairs? (fuel : Nat) (kind : Collection) (isFirst : Bool) (context : Context)
    (tokens : List Token) : Option (List (Node × Node) × List Token × Context) :=
  match fuel with
  | 0 => none
  | fuel + 1 =>
    let isBlock := kind == .blockMapping
    let continue_ (key : Node) (behind : List Token) (after : Context) :
        Option (List (Node × Node) × List Token × Context) := do
      let (value, last, final) ←
        match behind with
        | .value :: rest =>
          let missing := if isBlock then endsBlockValue rest else endsFlowPart rest
          nodeUnless? fuel missing isBlock isBlock after rest
        | rest => nodeUnless? fuel true isBlock isBlock after rest
      let (pairs, rest, complete) ← pairs? fuel kind false final last
      return ((key, value) :: pairs, rest, complete)
    match kind, tokens with
    | .blockMapping, .key :: rest => do
      let (key, behind, after) ← nodeUnless? fuel (endsBlockValue rest) true true context rest
      continue_ key behind after
    | .blockMapping, .blockEnd :: rest => some ([], rest, context)
    | .flowMapping, .flowMappingEnd :: rest => some ([], rest, context)
    | .flowMapping, rest => do
      let start ← separated? isFirst rest
      match start with
      | .flowMappingEnd :: last => return ([], last, context)
      | .key :: pair =>
        let absent := endsFlowPart pair || pair.head? == some .value
        let (key, behind, after) ← nodeUnless? fuel absent false false context pair
        continue_ key behind after
      | item =>
        -- A key without its mark has no value.
        let (key, behind, after) ← node? fuel false false context item
        let (pairs, last, final) ← pairs? fuel kind false (after.count 1) behind
        return ((key, .nothing none) :: pairs, last, final)
    | _, _ => none

end

/-- The depth to which collections are nested in a node, as far as `limit`. -/
def Node.exceeds (limit : Nat) : Node → Bool
  | .scalar _ _ _ => false
  | .sequence _ items =>
    match limit with
    | 0 => true
    | limit + 1 => items.attach.any fun item => item.val.exceeds limit
  | .mapping _ pairs =>
    match limit with
    | 0 => true
    | limit + 1 => pairs.attach.any fun pair => pair.val.1.exceeds limit || pair.val.2.exceeds limit
termination_by limit

/-- The greatest depth to which collections may be nested. -/
def depthLimit : Nat :=
  128

/-- The handles that need no directive. -/
def defaultHandles : List (String × String) :=
  [("!", "!"), ("!!", "tag:yaml.org,2002:")]

/-- Reads the directives before a document: at most one version, and no handle twice. -/
def directives? (versioned : Bool) (handles : List (String × String)) :
    List Token → Option (Bool × List (String × String) × List Token)
  | .versionDirective major minor :: rest =>
    if versioned || major != 1 || (minor != 1 && minor != 2) then none
    else directives? true handles rest
  | .tagDirective handle address :: rest =>
    if handles.any (·.1 == handle) then none
    else directives? versioned ((handle, address) :: handles) rest
  | rest => some (versioned || !handles.isEmpty, handles, rest)

/-- Whether no node stands before the next document or the end of the stream. -/
def lacksContent : List Token → Bool
  | [] => true
  | token :: _ =>
    match token with
    | .versionDirective _ _ | .tagDirective _ _ | .documentStart | .documentEnd => true
    | _ => false

/-- The root of a document: nothing for a stream without one. -/
inductive Root where
  | empty
  | node (root : Node)

/-- The only document of a text. -/
def Root.ofText? (text : List Char) : Option Root := do
  let tokens ← Token.all? text
  let fuel := 8 * tokens.length + 16
  let (directed, handles, rest) ← directives? false [] tokens
  let context : Context := ⟨handles ++ defaultHandles, [], 0, 0⟩
  match rest with
  | [] => if directed then none else some .empty
  | _ =>
    let (root, behind, after) ←
      match rest with
      | .documentStart :: content =>
        nodeUnless? fuel (lacksContent content) true false context content
      | content => if directed then none else node? fuel true false context content
    let last := behind.dropWhile (· == .documentEnd)
    if !last.isEmpty || after.jumps > 100 * after.events || root.exceeds depthLimit then none
    else some (.node root)

end Lineage.Yaml
