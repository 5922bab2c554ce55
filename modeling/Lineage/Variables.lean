import Lineage.Chain
import Lineage.OrderedMap

/-!
# The variables that a chain needs

A read of a variable is external if its template has not assigned the name before.  The variables of
a chain are the names with an external read, without those that some template assigns before it
mentions them in any other way.  A variable is required if every external read of it is bare.
-/

namespace Lineage

open Lineage.Template

/-- A variable that a chain reads. -/
structure Variable where
  name : String
  required : Bool
  /-- The first template from the root on that reads the variable. -/
  provenance : String
  /-- The description of the first fallback. -/
  fallback : Option String
  /-- The templates that read the variable, from the root on. -/
  tiers : List String
deriving DecidableEq, Repr

/-- The external reads among the nodes of a template that has assigned the names `assigned`. -/
def externalReads (assigned : List String) : List Node → List (String × Guard)
  | [] => []
  | node :: nodes =>
    match node with
    | .assign name _ => externalReads (name :: assigned) nodes
    | .read name guard _ =>
      if assigned.contains name then externalReads assigned nodes
      else (name, guard) :: externalReads assigned nodes
    | _ => externalReads assigned nodes

/-- The names that the nodes of a template assign before they mention them in any other way, where
`mentioned` are the names that it has mentioned. -/
def firstAssigned (mentioned : List String) : List Node → List String
  | [] => []
  | node :: nodes =>
    match node with
    | .assign name _ =>
      if mentioned.contains name then firstAssigned mentioned nodes
      else name :: firstAssigned (name :: mentioned) nodes
    | .read name _ _ => firstAssigned (name :: mentioned) nodes
    | _ => firstAssigned mentioned nodes

namespace Variable

/-- The variable that is read for the first time in the template `tier`. -/
def firstRead (name tier : String) : Variable :=
  ⟨name, true, tier, none, []⟩

/-- Adds the template `tier` to those that read the variable. -/
def addTier (var : Variable) (tier : String) : Variable :=
  if var.tiers.getLast? = some tier then var else { var with tiers := var.tiers ++ [tier] }

/-- Takes the guard of a read into account. -/
def addGuard (var : Variable) : Guard → Variable
  | .bare => var
  | .conditional => { var with required := false }
  | .fallback description =>
    { var with required := false, fallback := var.fallback <|> some description }

end Variable

/-- The variables that a chain needs, in the order of their first external read. -/
structure Classification where
  needed : OrderedMap Variable

namespace Classification

/-- An external read of a variable in a template. -/
structure Occurrence where
  tier : String
  name : String
  guard : Guard
deriving DecidableEq, Repr

/-- The external reads of a chain from the root to the leaf. -/
def occurrences (chain : Chain) : List Occurrence :=
  chain.tiers.flatMap fun tier =>
    (externalReads [] tier.parsed.nodes).map fun (name, guard) => ⟨tier.name, name, guard⟩

/-- The names that are local to a template of the chain. -/
def locals (chain : Chain) : List String :=
  chain.tiers.flatMap fun tier => firstAssigned [] tier.parsed.nodes

/-- Takes an external read into account. -/
def add (seen : OrderedMap Variable) (occurrence : Occurrence) : OrderedMap Variable :=
  let known := (seen.get? occurrence.name).getD (.firstRead occurrence.name occurrence.tier)
  seen.set occurrence.name ((known.addTier occurrence.tier).addGuard occurrence.guard)

/-- The names with an external read, those that are local to a template included. -/
def merged (chain : Chain) : OrderedMap Variable :=
  (occurrences chain).foldl add .empty

/-- The variables that a chain needs. -/
def ofChain (chain : Chain) : Classification :=
  let locals := locals chain
  let external := (merged chain).values.filter fun var => !locals.contains var.name
  ⟨external.foldl (fun needed var => needed.set var.name var) .empty⟩

/-- The variable with the given name. -/
def get? (classification : Classification) (name : String) : Option Variable :=
  classification.needed.get? name

/-- Whether the name is a required variable. -/
def isRequired (classification : Classification) (name : String) : Bool :=
  (classification.get? name).any (·.required)

/-- The first template that reads the variable. -/
def provenance (classification : Classification) (name : String) : Option String :=
  (classification.get? name).map (·.provenance)

/-- The variables without a guarded read. -/
def required (classification : Classification) : List Variable :=
  classification.needed.values.filter (·.required)

/-- The variables with a guarded read. -/
def optional (classification : Classification) : List Variable :=
  classification.needed.values.filter (!·.required)

end Classification

end Lineage
