import Lineage.Blocks
import Lineage.Metadata
import Lineage.Stamp
import Lineage.Variables

/-!
# The evaluation of rules

Each rule of a chain passes, fails, or is skipped because it is about a content and there is none.
How severe a failure is follows from the enforcement of the rule, and a report blocks if one of its
failures does.
-/

namespace Lineage

open Lineage.Text

/-- The outcome of a rule. -/
inductive Status where
  | passed
  | failed
  /-- The rule is about a content, and there is none. -/
  | skipped
deriving DecidableEq, Repr

/-- The name of an outcome. -/
def Status.toText : Status → String
  | .passed => "PASSED"
  | .failed => "FAILED"
  | .skipped => "SKIPPED"

/-- An outcome with its reason. -/
structure Verdict where
  status : Status
  reason : String
deriving DecidableEq, Repr

/-- The verdict on a rule. -/
structure RuleResult where
  ruleId : String
  status : Status
  severity : Severity
  message : String
  declaredIn : String
deriving DecidableEq, Repr

/-- Whether the rule has failed. -/
def RuleResult.isFailure (result : RuleResult) : Bool :=
  result.status == .failed

/-- Whether the rule has failed and blocks. -/
def RuleResult.isBlocking (result : RuleResult) : Bool :=
  result.isFailure && result.severity == .blocking

/-- The results of all rules of a chain. -/
structure Validation where
  template : String
  results : List RuleResult
deriving DecidableEq, Repr

namespace Validation

/-- Whether a failure blocks. -/
def isBlocking (validation : Validation) : Bool :=
  validation.results.any (·.isBlocking)

/-- The failures. -/
def failures (validation : Validation) : List RuleResult :=
  validation.results.filter (·.isFailure)

/-- The failures that block. -/
def blockingFailures (validation : Validation) : List RuleResult :=
  validation.results.filter (·.isBlocking)

/-- The failures that do not block. -/
def nonBlockingFailures (validation : Validation) : List RuleResult :=
  validation.results.filter fun result => result.isFailure && !result.isBlocking

/-- The result of the rule with the given identifier. -/
def get? (validation : Validation) (ruleId : String) : Option RuleResult :=
  validation.results.find? (·.ruleId == ruleId)

end Validation

/-! ## The verdicts -/

namespace Verdict

/-- The verdict where there is no content. -/
def noContent : Verdict :=
  ⟨.skipped, "no content supplied"⟩

/-- The verdict on a content that has to match a pattern, or must not. -/
def ofPattern (written : String) (pattern : Regex.Pattern) (forbidden : Bool)
    (content : List Char) : Verdict :=
  match pattern.firstMatch? content, forbidden with
  | some _, false => ⟨.passed, "content matches '" ++ written ++ "'"⟩
  | none, false => ⟨.failed, "content does not match required pattern '" ++ written ++ "'"⟩
  | none, true => ⟨.passed, "content does not match forbidden pattern '" ++ written ++ "'"⟩
  | some start, true =>
    ⟨.failed, "content matches forbidden pattern '" ++ written ++ "' at line " ++
      toString (lineBreaks (content.take start) + 1)⟩

/-- The verdict on variables of which `missing` are not described. -/
def ofUndocumented (kind : String) (missing : List String) : Verdict :=
  if missing.isEmpty then ⟨.passed, "all " ++ kind ++ " are documented"⟩
  else ⟨.failed, "undocumented " ++ kind ++ ": " ++ String.intercalate ", " missing⟩

/-- The verdict on blocks that are never rendered. -/
def ofWarnings (warnings : List BlockWarning) : Verdict :=
  if warnings.isEmpty then ⟨.passed, "every block overrides an inherited block"⟩
  else
    let dead := warnings.map fun warning =>
      "'" ++ warning.block ++ "' in '" ++ warning.template ++ "'"
    ⟨.failed, "blocks never rendered: " ++ String.intercalate ", " dead⟩

/-- The verdict on a block that some template has to contain. -/
def ofBlock (block : String) : Option BlockDefinition → Verdict
  | some definition =>
    ⟨.passed, "block '" ++ block ++ "' defined in '" ++ definition.definedIn ++ "'"⟩
  | none => ⟨.failed, "block '" ++ block ++ "' is not defined by any tier"⟩

/-- The verdict on the stamps of a content, of which one has to name the template and, if it is
known, the version. -/
def ofStamps (templateId : String) (version : Option String) (stamps : List Stamp) : Verdict :=
  if stamps.any (·.names templateId version) then
    ⟨.passed, "stamp for '" ++ templateId ++ "' present"⟩
  else
    let expected := Stamp.toText ⟨templateId, version, 0⟩
    match stamps with
    | [] => ⟨.failed, "no SCAFFOLD stamp found (expected " ++ expected ++ ")"⟩
    | found :: _ =>
      ⟨.failed, "stamp " ++ found.toText ++ " does not match expected " ++ expected⟩

end Verdict

/-! ## The analysis that is judged -/

/-- The analysis of a chain. -/
structure Analysis where
  classification : Classification
  blocks : BlockIndex
  metadata : Metadata

namespace Analysis

/-- The analysis of a chain.  The blocks are looked at before the declarations. -/
def ofChain (chain : Chain) : Except Failure Analysis := do
  let blocks ← BlockIndex.ofChain chain
  let metadata ← Metadata.ofChain chain
  return ⟨.ofChain chain, blocks, metadata⟩

/-- The names of the variables without a description. -/
def undocumented (analysis : Analysis) (vars : List Variable) : List String :=
  (vars.map (·.name)).filter fun name => !analysis.metadata.descriptions.contains name

/-- The verdict on a structural check. -/
def check (analysis : Analysis) (content : Option (List Char)) : Check → Verdict
  | .requiredVariablesDocumented =>
    .ofUndocumented "required variables" (analysis.undocumented analysis.classification.required)
  | .variablesDocumented =>
    .ofUndocumented "variables" (analysis.undocumented analysis.classification.needed.values)
  | .noDeadOverrides => .ofWarnings analysis.blocks.warnings
  | .blockDefined block => .ofBlock block (analysis.blocks.get? block)
  | .stamped =>
    match content with
    | some content =>
      .ofStamps analysis.metadata.templateId (analysis.metadata.version.map (·.toText))
        (Stamp.all content)
    | none => .noContent

/-- The verdict on what a rule demands. -/
def verdict (analysis : Analysis) (content : Option (List Char)) : Criterion → Verdict
  | .content written pattern forbidden =>
    match content with
    | some content => .ofPattern written pattern forbidden content
    | none => .noContent
  | .structural check => analysis.check content check

/-- The result of a rule.  The message of a failure begins with the description of the rule. -/
def result (analysis : Analysis) (content : Option (List Char)) (rule : Rule) : RuleResult :=
  let verdict := analysis.verdict content rule.criterion
  let message :=
    if rule.description.isEmpty || verdict.status != .failed then verdict.reason
    else rule.description ++ ": " ++ verdict.reason
  ⟨rule.id, verdict.status, rule.enforcement.severity, message, rule.declaredIn⟩

/-- The results of all rules for a content, if there is one. -/
def validate (analysis : Analysis) (template : String) (content : Option String) : Validation :=
  ⟨template, analysis.metadata.rules.values.map (analysis.result (content.map String.toList))⟩

end Analysis

end Lineage
