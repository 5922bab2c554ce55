import Lineage.Failure
import Lineage.Metadata.Criterion
import Lineage.Metadata.Enforcement
import Lineage.Version
import Lineage.Yaml.Value

/-!
# What a template declares about itself

A comment whose first word is `scaffold:metadata` declares the identifier and the version of its
template, a level of enforcement, descriptions of variables and rules.  The rest of the comment is a
YAML mapping.  A template has at most one such comment.
-/

namespace Lineage

open Lineage.Template Lineage.Text Lineage.Yaml

/-- A rule as a template declares it. -/
structure RuleDeclaration where
  id : String
  description : String
  criterion : Criterion

/-- What one template declares. -/
structure Declaration where
  templateId : Option String
  version : Option Version
  enforcement : Option Enforcement
  /-- The described variables with their descriptions. -/
  descriptions : List (String × String)
  rules : List RuleDeclaration

/-- The declaration of a template that declares nothing. -/
def Declaration.nothing : Declaration :=
  ⟨none, none, none, [], []⟩

/-- What is wrong with a rule. -/
inductive RuleDefect where
  | blockWithPattern
  | pattern
  | forbiddenWithCheck
  | check (defect : CheckDefect)
  | both
  | neither

/-- The wording of the defect of the rule `id`. -/
def RuleDefect.message (id : String) : RuleDefect → String
  | .blockWithPattern => "rule '" ++ id ++ "': 'block' only applies to block_defined"
  | .pattern => "rule '" ++ id ++ "' has an invalid pattern"
  | .forbiddenWithCheck => "rule '" ++ id ++ "': 'forbidden' only applies to pattern rules"
  | .check defect => "rule '" ++ id ++ "': " ++ defect.message
  | .both => "rule '" ++ id ++ "' declares both 'pattern' and 'check'"
  | .neither => "rule '" ++ id ++ "' needs either 'pattern' or 'check'"

/-- What is wrong with a declaration. -/
inductive DeclarationDefect where
  /-- A second comment declares something, in the given line. -/
  | secondComment (line : Nat)
  /-- The comment is not a YAML document of the right form. -/
  | document
  | versionKind
  | version (written : String)
  | enforcement (written : String)
  | documentation
  | emptyRuleId
  | repeatedRule (id : String)
  | rule (id : String) (defect : RuleDefect)

/-- The wording of a defect. -/
def DeclarationDefect.message : DeclarationDefect → String
  | .secondComment line =>
    "second metadata block at line " ++ toString line ++ "; only one is allowed per template"
  | .document => "<yaml>"
  | .versionKind => "version must be a string"
  | .version written => "invalid semantic version '" ++ written ++ "'"
  | .enforcement written =>
    "unknown enforcement level '" ++ written ++
      "' (expected NONE, ADVISORY, STRICT or ARCHITECTURAL)"
  | .documentation => "variable documentation must map names to strings"
  | .emptyRuleId => "rule id must not be empty"
  | .repeatedRule id => "duplicate rule id '" ++ id ++ "'"
  | .rule id defect => defect.message id

/-! ## The document -/

/-- The fields of a rule as written. -/
structure WrittenRule where
  id : String
  description : String
  pattern : Option String
  forbidden : Option Bool
  check : Option String
  block : Option String

/-- The fields of a declaration as written. -/
structure WrittenDeclaration where
  templateId : Option String
  version : Option Value
  enforcement : Option String
  descriptions : Option (List (Value × Value))
  rules : List WrittenRule

/-- The declaration of an empty document. -/
def WrittenDeclaration.nothing : WrittenDeclaration :=
  ⟨none, none, none, none, []⟩

/-- The pairs of a mapping, in which no key stands twice. -/
def mappingValues? (node : Yaml.Node) : Option (List (Value × Value)) := do
  let pairs ← (← node.pairs?).mapM fun (key, value) => return (← key.value?, ← value.value?)
  if hasRepeatedKey pairs then none else some pairs

/-- Reads a rule. -/
def WrittenRule.ofNode? (node : Yaml.Node) : Option WrittenRule := do
  let fields ← node.fields? ["id", "description", "pattern", "forbidden", "check", "block"]
  let id ← (field? fields "id").bind Node.text?
  let description ←
    match field? fields "description" with
    | some written => written.text?
    | none => some ""
  let pattern ← optionalField? fields "pattern" Node.text?
  let forbidden ← optionalField? fields "forbidden" Node.boolean?
  let check ← optionalField? fields "check" Node.text?
  let block ← optionalField? fields "block" Node.text?
  return ⟨id, description, pattern, forbidden, check, block⟩

/-- Reads a declaration. -/
def WrittenDeclaration.ofNode? (node : Yaml.Node) : Option WrittenDeclaration := do
  let fields ← node.fields? ["template_id", "version", "enforcement", "variables", "rules"]
  let templateId ← optionalField? fields "template_id" Node.text?
  let version ← optionalField? fields "version" Node.value?
  let enforcement ← optionalField? fields "enforcement" Node.text?
  let descriptions ← optionalField? fields "variables" mappingValues?
  let rules ←
    match field? fields "rules" with
    | some written => written.items?.bind (·.mapM WrittenRule.ofNode?)
    | none => some []
  return ⟨templateId, version, enforcement, descriptions, rules⟩

/-- Reads the text of a declaring comment behind its first word.  A text without a document declares
nothing. -/
def WrittenDeclaration.ofText? (text : List Char) : Option WrittenDeclaration :=
  if isBlankText text then some .nothing
  else
    match Root.ofText? text with
    | some (.node root) => ofNode? root
    | some .empty => some .nothing
    | none => none

/-! ## The declaration -/

/-- The text of a version, which may be written as a number. -/
def versionText? : Value → Option String
  | .string text => some text
  | .integer n => some (toString n)
  | .real text => some text
  | _ => none

/-- The version that a value writes. -/
def Version.ofValue (value : Value) : Except DeclarationDefect Version :=
  match versionText? value with
  | none => .error .versionKind
  | some text =>
    match Version.parse? (trim text.toList) with
    | some version => .ok version
    | none => .error (.version text)

/-- The level of enforcement that a text names. -/
def Enforcement.ofText (text : String) : Except DeclarationDefect Enforcement :=
  match ofText? text with
  | some level => .ok level
  | none => .error (.enforcement text)

/-- The description of a variable. -/
def descriptionOfPair : Value × Value → Except DeclarationDefect (String × String)
  | (.string name, .string description) => .ok (name, description)
  | _ => .error .documentation

/-- What a written rule demands. -/
def WrittenRule.criterion (rule : WrittenRule) : Except RuleDefect Criterion :=
  match rule.pattern, rule.check with
  | some written, none =>
    if rule.block.isSome then .error .blockWithPattern
    else
      match Regex.Pattern.parse? written.toList with
      | some pattern => .ok (.content written pattern (rule.forbidden.getD false))
      | none => .error .pattern
  | none, some name =>
    if rule.forbidden.isSome then .error .forbiddenWithCheck
    else
      match Check.ofName name rule.block with
      | .ok check => .ok (.structural check)
      | .error defect => .error (.check defect)
  | some _, some _ => .error .both
  | none, none => .error .neither

/-- The rule that is written, where `earlier` are the identifiers of the rules before it. -/
def RuleDeclaration.ofWritten (earlier : List String) (rule : WrittenRule) :
    Except DeclarationDefect RuleDeclaration :=
  if isBlankText rule.id.toList then .error .emptyRuleId
  else if earlier.contains rule.id then .error (.repeatedRule rule.id)
  else
    match rule.criterion with
    | .ok criterion => .ok ⟨rule.id, rule.description, criterion⟩
    | .error defect => .error (.rule rule.id defect)

/-- The rules that are written, in their order. -/
def RuleDeclaration.allOfWritten (earlier : List String) :
    List WrittenRule → Except DeclarationDefect (List RuleDeclaration)
  | [] => .ok []
  | rule :: rules => do
    let declared ← ofWritten earlier rule
    return declared :: (← allOfWritten (rule.id :: earlier) rules)

/-- The declaration that is written. -/
def Declaration.ofWritten (written : WrittenDeclaration) :
    Except DeclarationDefect Declaration := do
  let version ← written.version.mapM Version.ofValue
  let enforcement ← written.enforcement.mapM Enforcement.ofText
  let descriptions ← (written.descriptions.getD []).mapM descriptionOfPair
  let rules ← RuleDeclaration.allOfWritten [] written.rules
  return ⟨written.templateId, version, enforcement, descriptions, rules⟩

/-- The declaration with the given text. -/
def Declaration.ofText (text : List Char) : Except DeclarationDefect Declaration :=
  match WrittenDeclaration.ofText? text with
  | some written => ofWritten written
  | none => .error .document

/-! ## The comment -/

/-- The first word of a comment that declares something. -/
def declarationMarker : String :=
  "scaffold:metadata"

/-- The text of a comment behind the marker, if that is its first word. -/
def declaringText? (comment : List Char) : Option (List Char) :=
  match after? declarationMarker.toList comment with
  | some [] => some []
  | some (c :: rest) => if Text.isBlank c then some (c :: rest) else none
  | none => none

/-- The texts of the declaring comments and their lines. -/
def declaringComments (segments : List Segment) : List (List Char × Nat) :=
  segments.filterMap fun
    | .comment body line => (declaringText? body).map (·, line)
    | _ => none

/-- What the segments of a template declare, if one of its comments declares something. -/
def Declaration.ofSegments (segments : List Segment) :
    Except DeclarationDefect (Option Declaration) :=
  match declaringComments segments with
  | [] => .ok none
  | [(text, _)] => (ofText text).map some
  | _ :: (_, line) :: _ => .error (.secondComment line)

/-- What the template `name` with the given text declares, if it declares something. -/
def Declaration.ofTemplate (name : String) (text : List Char) :
    Except Failure (Option Declaration) :=
  match Segment.ofTemplate text with
  | .error fault => .error (.parse name fault.line fault.cause.message)
  | .ok segments =>
    match ofSegments segments with
    | .ok declaration => .ok declaration
    | .error defect => .error (.malformedMetadata name defect.message)

end Lineage
