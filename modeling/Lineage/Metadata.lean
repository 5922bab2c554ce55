import Lineage.Chain
import Lineage.Metadata.Declaration
import Lineage.OrderedMap

/-!
# The declarations of a chain together

What the templates of a chain declare is put together from the root to the leaf.  A rule replaces
the one with the same identifier, and stays in its place; the same holds of the description of a
variable.  A template that declares no level of enforcement takes that of the nearest template above
it, and a rule has the level of the template whose declaration of it is in effect.
-/

namespace Lineage

/-- A rule of a chain. -/
structure Rule where
  id : String
  description : String
  criterion : Criterion
  enforcement : Enforcement
  /-- The template whose declaration is in effect. -/
  declaredIn : String

/-- What one template of a chain has declared. -/
structure TierAudit where
  template : String
  templateId : Option String
  version : Option Version
  /-- The level that holds in the template, declared there or further up. -/
  enforcement : Enforcement
  declaresEnforcement : Bool
  rules : List String
deriving DecidableEq, Repr

/-- What the templates of a chain declare together. -/
structure Metadata where
  templateId : String
  version : Option Version
  enforcement : Enforcement
  descriptions : OrderedMap String
  rules : OrderedMap Rule
  tiers : List TierAudit

namespace Metadata

/-- A template with its declaration and the level of enforcement that holds in it. -/
structure Stage where
  template : String
  declaration : Declaration
  enforcement : Enforcement

/-- The declaration of a template, which may be empty. -/
def declaration (tier : Tier) : Except Failure Declaration :=
  (Declaration.ofTemplate tier.name tier.source.text.toList).map (·.getD .nothing)

/-- The templates with their levels, where `level` holds above the first one. -/
def stages (level : Enforcement) : List (String × Declaration) → List Stage
  | [] => []
  | (template, declaration) :: rest =>
    let level := declaration.enforcement.getD level
    ⟨template, declaration, level⟩ :: stages level rest

/-- What a template has declared. -/
def Stage.audit (stage : Stage) : TierAudit where
  template := stage.template
  templateId := stage.declaration.templateId
  version := stage.declaration.version
  enforcement := stage.enforcement
  declaresEnforcement := stage.declaration.enforcement.isSome
  rules := stage.declaration.rules.map (·.id)

/-- The rules that a template declares, with its level. -/
def Stage.rules (stage : Stage) : List Rule :=
  stage.declaration.rules.map fun rule =>
    ⟨rule.id, rule.description, rule.criterion, stage.enforcement, stage.template⟩

/-- The level that holds in the last of the templates. -/
def lastLevel (stages : List Stage) : Enforcement :=
  (stages.getLast?.map (·.enforcement)).getD .fallback

/-- The descriptions of the variables, of which the last one counts. -/
def mergedDescriptions (stages : List Stage) : OrderedMap String :=
  (stages.flatMap (·.declaration.descriptions)).foldl
    (fun known (name, description) => known.set name description) .empty

/-- The rules, of which the last one with an identifier counts. -/
def mergedRules (stages : List Stage) : OrderedMap Rule :=
  (stages.flatMap Stage.rules).foldl (fun rules rule => rules.set rule.id rule) .empty

/-- What the templates declare together, where `leaf` is the name of the last one. -/
def ofStages (leaf : String) (stages : List Stage) : Metadata where
  templateId := ((stages.filterMap (·.declaration.templateId)).getLast?).getD leaf
  version := (stages.filterMap (·.declaration.version)).getLast?
  enforcement := lastLevel stages
  descriptions := mergedDescriptions stages
  rules := mergedRules stages
  tiers := stages.map Stage.audit

/-- What the templates of a chain declare together. -/
def ofChain (chain : Chain) : Except Failure Metadata := do
  let declared ← chain.tiers.mapM fun tier => return (tier.name, ← declaration tier)
  return ofStages chain.leaf.name (stages .fallback declared)

end Metadata

end Lineage
