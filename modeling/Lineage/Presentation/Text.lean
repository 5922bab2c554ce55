import Lineage.Explanation
import Lineage.Inspector
import Lineage.Presentation.Structured
import Lineage.Presentation.Style

/-!
# Reports as texts

The reports as they are shown on a terminal.
-/

namespace Lineage

/-- The result of looking at a template in a list. -/
structure TemplateStatus where
  template : String
  /-- The length of the chain and the number of warnings, or the failure. -/
  outcome : Except Failure (Nat × Nat)

/-- The status of the template with the given name. -/
def TemplateStatus.ofResult (template : String) (result : Except Failure ReportRecord) :
    TemplateStatus :=
  ⟨template, result.map fun record =>
    (record.report.chain.length, record.report.warnings.length)⟩

/-- The status as a JSON value. -/
def TemplateStatus.structured (status : TemplateStatus) : Json.Value :=
  let (length, warnings, error) :=
    match status.outcome with
    | .ok (length, warnings) => (Json.Value.number length, warnings, none)
    | .error failure => (Json.Value.null, 0, some failure.message)
  .object [
    ("template", .string status.template),
    ("chain_length", length),
    ("warnings", .number warnings),
    ("error", .ofOption error)]

namespace Palette

/-- A text with a line break behind it. -/
def line (text : String) : String :=
  text ++ "\n"

/-- A heading with the number of entries below it, behind an empty line. -/
def heading (palette : Palette) (style : Style) (title : String) (count : Nat) : String :=
  line ("\n" ++ palette.show style title ++ " (" ++ toString count ++ ")")

/-- The template from which something comes. -/
def origin (palette : Palette) (template : String) : String :=
  palette.show .dimmed ("(from " ++ template ++ ")")

/-! ## Reports -/

/-- A required variable with its description. -/
def requiredVariable (palette : Palette) (descriptions : OrderedMap String) (var : Variable) :
    String :=
  let description :=
    match descriptions.get? var.name with
    | some text => " - " ++ text
    | none => ""
  line ("  " ++ palette.show (.colour .green) var.name ++ " " ++
    palette.show .dimmed ("[" ++ var.provenance ++ "]") ++ description)

/-- An optional variable with its fallback. -/
def optionalVariable (palette : Palette) (var : Variable) : String :=
  let fallback :=
    match var.fallback with
    | some text => if text.isEmpty then " (default)" else " (default: " ++ text ++ ")"
    | none => " (conditional)"
  line ("  " ++ palette.show (.colour .yellow) var.name ++ fallback ++ " " ++
    palette.show .dimmed ("[" ++ var.provenance ++ "]"))

/-- A block with the templates that contain it. -/
def block (palette : Palette) (definition : BlockDefinition) : String :=
  let overrides := definition.overrides.map fun override =>
    ", overridden in " ++ override.template ++ if override.callsSuper then " (super)" else ""
  line ("  " ++ palette.show (.colour .cyan) definition.name ++ " defined in " ++
    definition.definedIn ++ String.join overrides)

/-- A rule with the template that declares it. -/
def rule (palette : Palette) (rule : Rule) : String :=
  line ("  " ++ rule.id ++ " [" ++ rule.enforcement.toText ++ "] " ++ rule.description ++ " " ++
    palette.origin rule.declaredIn)

/-- A warning. -/
def warning (palette : Palette) (warning : BlockWarning) : String :=
  line ("  " ++ palette.show (.colour .yellow) "warning:" ++ " " ++ warning.message)

/-- A section with a heading and entries. -/
def entries {α : Type} (palette : Palette) (style : Style) (title : String) (encode : α → String)
    (entries : List α) : String :=
  palette.heading style title entries.length ++ String.join (entries.map encode)

/-- A section that is left out if it has no entries. -/
def entriesIfAny {α : Type} (palette : Palette) (style : Style) (title : String)
    (encode : α → String) (entries : List α) : String :=
  if entries.isEmpty then "" else palette.entries style title encode entries

/-- The text of a report. -/
def report (palette : Palette) (report : Report) : String :=
  let metadata := report.analysis.metadata
  let version := (metadata.version.map (·.toText)).getD "-"
  line (palette.show .bold "Template:" ++ " " ++ palette.show (.colour .cyan) report.template) ++
  line (palette.show .bold "Chain:" ++ " " ++
    String.intercalate " -> " (report.chain.map (·.template))) ++
  line (palette.show .bold "Metadata:" ++ " " ++ metadata.templateId ++ " (version " ++ version ++
    ", enforcement " ++ metadata.enforcement.toText ++ ")") ++
  palette.entries .bold "Required variables" (palette.requiredVariable metadata.descriptions)
    report.required ++
  palette.entries .bold "Optional variables" palette.optionalVariable report.optional ++
  palette.entries .bold "Blocks" palette.block report.analysis.blocks.blocks.values ++
  palette.entriesIfAny .bold "Rules" palette.rule metadata.rules.values ++
  palette.entriesIfAny (.boldColour .yellow) "Warnings" palette.warning report.warnings

/-! ## Validations -/

/-- The label of a result. -/
def label (palette : Palette) (result : RuleResult) : String :=
  match result.status, result.severity with
  | .passed, _ => palette.show (.colour .green) "PASS"
  | .skipped, _ => palette.show .dimmed "SKIP"
  | .failed, .blocking => palette.show (.boldColour .red) "FAIL"
  | .failed, .advisory => palette.show (.colour .yellow) "WARN"
  | .failed, .info => palette.show (.colour .blue) "INFO"

/-- The result of a rule. -/
def result (palette : Palette) (result : RuleResult) : String :=
  line ("  " ++ palette.label result ++ " " ++ result.ruleId ++ " [" ++ result.severity.toText ++
    "] " ++ result.message ++ " " ++ palette.origin result.declaredIn)

/-- The last line of a validation. -/
def summary (palette : Palette) (validation : Validation) : String :=
  let failures := validation.failures.length
  let blocking := validation.blockingFailures.length
  if validation.isBlocking then
    palette.show (.boldColour .red) (toString blocking ++ " blocking failure(s), " ++
      toString (failures - blocking) ++ " non-blocking")
  else if 0 < failures then
    palette.show (.colour .yellow) (toString failures ++ " non-blocking failure(s)")
  else palette.show (.colour .green) "all rules passed"

/-- The text of a validation. -/
def validation (palette : Palette) (validation : Validation) : String :=
  line (palette.show .bold "Validating" ++ " " ++
    palette.show (.colour .cyan) validation.template) ++
  (if validation.results.isEmpty then line "  no rules declared" else "") ++
  String.join (validation.results.map palette.result) ++
  line ("\n" ++ palette.summary validation)

/-! ## Chains and lists -/

/-- The text of a chain, in which each template is indented further. -/
def chain (palette : Palette) (links : List Chain.Link) : String :=
  String.join (links.zipIdx.map fun (link, depth) =>
    line (String.ofList (List.replicate (2 * depth) ' ') ++
      palette.show (.colour .cyan) link.template ++ " " ++
      palette.show .dimmed link.identity))

/-- The text of a list without templates. -/
def noTemplates (palette : Palette) : String :=
  line (palette.show (.colour .yellow) "No templates found")

/-- The status of a template. -/
def status (palette : Palette) (status : TemplateStatus) : String :=
  let detail :=
    match status.outcome with
    | .error failure => palette.show (.colour .red) "error" ++ " " ++ failure.message
    | .ok (length, warnings) =>
      if 0 < warnings then
        palette.show (.colour .yellow) "ok" ++ " (" ++ toString length ++ " tiers, " ++
          toString warnings ++ " warning(s))"
      else palette.show (.colour .green) "ok" ++ " (" ++ toString length ++ " tiers)"
  line (status.template ++ " " ++ detail)

/-- The text of the status of several templates. -/
def statuses (palette : Palette) (statuses : List TemplateStatus) : String :=
  if statuses.isEmpty then palette.noTemplates else String.join (statuses.map palette.status)

/-- The text of a list of templates. -/
def names (palette : Palette) (names : List String) : String :=
  if names.isEmpty then palette.noTemplates else String.join (names.map line)

/-! ## Explanations -/

/-- The text of an explanation. -/
def explanation (palette : Palette) (explanation : Explanation) : String :=
  let part (style : Style) (title : String) : Option String → String
    | some text => line (palette.show style title ++ ": " ++ text)
    | none => ""
  line (palette.show (.boldColour .red) "error" ++ ": " ++ explanation.failure.message) ++
  part (.colour .yellow) "details" explanation.details ++
  part (.colour .green) "suggestion" explanation.suggestion

end Palette

end Lineage
