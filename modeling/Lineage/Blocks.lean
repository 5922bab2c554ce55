import Lineage.Chain
import Lineage.OrderedMap
import Lineage.Text.EditDistance

/-!
# The blocks of a chain

The first template from the root on that contains a block defines it, and every later one overrides
it.  A block that calls `super()` must override another one.  A block that a template defines
although it extends another one is rendered only as part of a block around it; outside every block
it is never rendered, which is worth a warning.
-/

namespace Lineage

open Lineage.Template Lineage.Text

/-- A block that takes the place of an inherited one. -/
structure BlockOverride where
  template : String
  callsSuper : Bool
deriving DecidableEq, Repr

/-- The templates that contain a block. -/
structure BlockDefinition where
  name : String
  definedIn : String
  /-- The overriding templates from the root to the leaf. -/
  overrides : List BlockOverride
deriving DecidableEq, Repr

/-- The template whose version of the block is rendered. -/
def BlockDefinition.effectiveTemplate (definition : BlockDefinition) : String :=
  (definition.overrides.getLast?.map (·.template)).getD definition.definedIn

/-- A block that is never rendered. -/
structure BlockWarning where
  block : String
  template : String
  line : Nat
  /-- An inherited block with a similar name. -/
  suggestion : Option String
deriving DecidableEq, Repr

/-- The wording of a warning. -/
def BlockWarning.message (warning : BlockWarning) : String :=
  "Block '" ++ warning.block ++ "' in '" ++ warning.template ++ "' (line " ++
    toString warning.line ++ ") is not defined by any ancestor and will never render" ++
    match warning.suggestion with
    | some name => " (did you mean '" ++ name ++ "'?)"
    | none => ""

/-- The blocks of a chain in the order of their definition. -/
structure BlockIndex where
  blocks : OrderedMap BlockDefinition
  warnings : List BlockWarning

namespace BlockIndex

/-- The index of a chain without blocks. -/
def empty : BlockIndex :=
  ⟨.empty, []⟩

/-- The block with the given name. -/
def get? (index : BlockIndex) (name : String) : Option BlockDefinition :=
  index.blocks.get? name

/-- Whether some template contains the block. -/
def contains (index : BlockIndex) (name : String) : Bool :=
  index.blocks.contains name

/-- The largest distance from a name at which another one is similar: half its length in bytes. -/
def similarity (name : String) : Nat :=
  name.utf8ByteSize * 50 / 100

/-- The first of the candidates with the least distance, if that is at most `limit`. -/
def closest? (limit : Nat) (distance : String → Nat) (candidates : List String) : Option String :=
  (candidates.filter fun candidate => distance candidate ≤ limit).foldl
    (fun best candidate =>
      match best with
      | some name => if distance candidate < distance name then some candidate else some name
      | none => some candidate)
    none

/-- The candidate whose name is similar to the given one. -/
def similarName? (name : String) (candidates : List String) : Option String :=
  closest? (similarity name) (fun candidate => editDistance name.toList candidate.toList) candidates

/-- The place of a template in a chain. -/
structure Position where
  template : String
  isRoot : Bool
  /-- The blocks that the templates before it contain. -/
  inherited : List String

/-- The warning that a block deserves which no template before defines. -/
def warning? (position : Position) (block : Block) : Option BlockWarning :=
  if position.isRoot || block.enclosing.isSome then none
  else some ⟨block.name, position.template, block.line, similarName? block.name position.inherited⟩

/-- Adds a block of a template to the index. -/
def add (position : Position) (index : BlockIndex) (block : Block) : Except Failure BlockIndex :=
  if index.contains block.name then
    .ok { index with
      blocks := index.blocks.modify block.name fun definition =>
        { definition with
          overrides := definition.overrides ++ [⟨position.template, block.callsSuper⟩] } }
  else if block.callsSuper then .error (.superWithoutAncestor position.template block.name)
  else
    .ok {
      blocks := index.blocks.push block.name ⟨block.name, position.template, []⟩
      warnings := index.warnings ++ (warning? position block).toList }

/-- Adds the blocks of a template to the index. -/
def addTier (isRoot : Bool) (index : BlockIndex) (tier : Tier) : Except Failure BlockIndex :=
  tier.parsed.blocks.foldlM (add ⟨tier.name, isRoot, index.blocks.keys⟩) index

/-- Adds the blocks of templates that extend others. -/
def addTiers (index : BlockIndex) (tiers : List Tier) : Except Failure BlockIndex :=
  tiers.foldlM (addTier false) index

/-- The blocks of a chain. -/
def ofChain (chain : Chain) : Except Failure BlockIndex := do
  (← addTier true empty chain.root).addTiers chain.tiers.tail

end BlockIndex

end Lineage
