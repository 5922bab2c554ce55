import Lineage.Json
import Lineage.Report

/-!
# Reports as JSON values

The reports as they are handed to other programs.  The fields stand in a fixed order, and the
variables, blocks and rules in the order of the report.
-/

namespace Lineage

open Lineage.Json

/-- A template of a chain. -/
def Chain.Link.structured (link : Chain.Link) : Value :=
  .object [
    ("template", .string link.template),
    ("extends", .ofOption link.parent),
    ("content_id", .string link.identity)]

/-- The entries of a map under their keys. -/
def OrderedMap.structured {α : Type} (encode : α → Value) (map : OrderedMap α) : Value :=
  .object (map.toList.map fun (key, value) => (key, encode value))

/-- A variable. -/
def Variable.structured (var : Variable) : Value :=
  .object [
    ("name", .string var.name),
    ("required", .boolean var.required),
    ("provenance", .string var.provenance),
    ("default", .ofOption var.fallback),
    ("tiers", .ofStrings var.tiers)]

/-- An overriding template. -/
def BlockOverride.structured (override : BlockOverride) : Value :=
  .object [("template", .string override.template), ("calls_super", .boolean override.callsSuper)]

/-- A block. -/
def BlockDefinition.structured (definition : BlockDefinition) : Value :=
  .object [
    ("name", .string definition.name),
    ("defined_in", .string definition.definedIn),
    ("overrides", .array (definition.overrides.map (·.structured)))]

/-- A warning. -/
def BlockWarning.structured (warning : BlockWarning) : Value :=
  .object [
    ("block", .string warning.block),
    ("template", .string warning.template),
    ("line", .number warning.line),
    ("suggestion", .ofOption warning.suggestion)]

/-- The fields of a check. -/
def Check.fields (check : Check) : List (String × Value) :=
  ("check", .string check.name) ::
    match check.block? with
    | some block => [("block", .string block)]
    | none => []

/-- The fields of what a rule demands. -/
def Criterion.fields : Criterion → List (String × Value)
  | .content written _ forbidden =>
    [("pattern", .string written), ("forbidden", .boolean forbidden)]
  | .structural check => check.fields

/-- A rule. -/
def Rule.structured (rule : Rule) : Value :=
  .object (
    [("id", .string rule.id), ("description", .string rule.description)] ++ rule.criterion.fields ++
    [("enforcement", .string rule.enforcement.toText), ("declared_in", .string rule.declaredIn)])

/-- The version of a template. -/
def Version.structured (version : Option Version) : Value :=
  .ofOption (version.map (·.toText))

/-- What a template has declared. -/
def TierAudit.structured (audit : TierAudit) : Value :=
  .object [
    ("template", .string audit.template),
    ("template_id", .ofOption audit.templateId),
    ("version", Version.structured audit.version),
    ("enforcement", .string audit.enforcement.toText),
    ("declares_enforcement", .boolean audit.declaresEnforcement),
    ("rules", .ofStrings audit.rules)]

/-- What the templates of a chain declare together. -/
def Metadata.structured (metadata : Metadata) : Value :=
  .object [
    ("template_id", .string metadata.templateId),
    ("version", Version.structured metadata.version),
    ("enforcement", .string metadata.enforcement.toText),
    ("variables", metadata.descriptions.structured .string),
    ("rules", metadata.rules.structured Rule.structured),
    ("tiers", .array (metadata.tiers.map (·.structured)))]

/-- A report. -/
def Report.structured (report : Report) : Value :=
  .object [
    ("template", .string report.template),
    ("chain", .array (report.chain.map (·.structured))),
    ("required_variables", .ofStrings (report.required.map (·.name))),
    ("optional_variables", .array (report.optional.map fun var =>
      .object [("name", .string var.name), ("default", .ofOption var.fallback)])),
    ("variables", .object
      [("variables", report.analysis.classification.needed.structured Variable.structured)]),
    ("blocks", .object
      [("blocks", report.analysis.blocks.blocks.structured BlockDefinition.structured)]),
    ("metadata", report.analysis.metadata.structured),
    ("warnings", .array (report.warnings.map (·.structured)))]

/-- The result of a rule. -/
def RuleResult.structured (result : RuleResult) : Value :=
  .object [
    ("rule_id", .string result.ruleId),
    ("status", .string result.status.toText),
    ("severity", .string result.severity.toText),
    ("message", .string result.message),
    ("declared_in", .string result.declaredIn)]

/-- The results of all rules. -/
def Validation.structured (validation : Validation) : Value :=
  .object [
    ("template", .string validation.template),
    ("results", .array (validation.results.map (·.structured))),
    ("blocking", .boolean validation.isBlocking)]

end Lineage
