import Lineage.CommandLine.Arguments
import Lineage.Configuration
import Lineage.Presentation.Text

/-!
# Running commands

A command reads its configuration, looks at the templates and writes its result.  What it reads is
given: the files, the input, and what the environment says about the configuration.
-/

namespace Lineage.CommandLine

/-- What a command finds around itself. -/
structure Surroundings where
  files : FileSystem
  /-- The bytes of the standard input. -/
  input : ByteArray
  /-- The configuration file that the environment names. -/
  configVariable : Option String
  palette : Palette

/-- What a command leaves behind. -/
structure Completion where
  output : String
  /-- Whether rules block the use of a content. -/
  blocked : Bool

/-- The exit code of a command that has been carried out. -/
def Completion.exitCode (completion : Completion) : Nat :=
  if completion.blocked then 1 else 0

/-- The exit code of a command that has failed. -/
def failureExitCode : Nat :=
  2

/-- What a command works with. -/
structure Workplace where
  surroundings : Surroundings
  configuration : Configuration
  templates : TemplateDirectory

namespace Workplace

/-- The workplace of an invocation. -/
def ofInvocation (surroundings : Surroundings) (invocation : Invocation) :
    Except Trouble Workplace := do
  let files := surroundings.files
  let configuration ← Configuration.load files invocation.config surroundings.configVariable
    files.workingDirectory
  let root :=
    match invocation.templatesDirectory with
    | some directory => Path.join files.workingDirectory directory
    | none => configuration.directoryFrom files.workingDirectory
  return ⟨surroundings, configuration, ⟨files, root, configuration.plainExtensions⟩⟩

/-- The inspector of a workplace. -/
def inspector (workplace : Workplace) : Inspector :=
  .fresh workplace.configuration.maxDepth

/-- The text of a result in the given format. -/
def written (format : Format) (structured : Json.Value) (text : String) : String :=
  match format with
  | .json => structured.pretty ++ "\n"
  | .text => text

/-- The trouble that a failure is. -/
def trouble {α : Type} (result : Except Failure α) : Except Trouble α :=
  result.mapError fun failure => .of (.failure failure)

/-- The text of the standard input. -/
def inputText (workplace : Workplace) : Except Trouble String :=
  match String.fromUTF8? workplace.surroundings.input with
  | some text => .ok text
  | none =>
    .error ((Trouble.of (.file FileError.notText.message)).within
      "Failed to read content from stdin")

/-- The text of a content.  A single dash stands for the standard input. -/
def contentText (workplace : Workplace) (path : String) : Except Trouble String :=
  if path == inputPath then workplace.inputText
  else
    match workplace.surroundings.files.readText path with
    | .ok text => .ok text
    | .error error =>
      .error ((Trouble.of (.file error.message)).within ("Failed to read content from " ++ path))

/-- Shows the report on a leaf. -/
def introspect (workplace : Workplace) (format : Format) (leaf : String) :
    Except Trouble Completion := do
  let answered := workplace.inspector.introspect workplace.templates.lookup leaf .empty
  let record ← trouble answered.result
  return ⟨written format record.report.structured
    (workplace.surroundings.palette.report record.report), false⟩

/-- Evaluates the rules of a leaf. -/
def validate (workplace : Workplace) (format : Format) (leaf : String) (content : Option String) :
    Except Trouble Completion := do
  let content ← content.mapM workplace.contentText
  let answered := workplace.inspector.validate workplace.templates.lookup leaf content .empty
  let validation ← trouble answered.result
  return ⟨written format validation.structured
    (workplace.surroundings.palette.validation validation), validation.isBlocking⟩

/-- Shows the chain of a leaf. -/
def chain (workplace : Workplace) (format : Format) (leaf : String) :
    Except Trouble Completion := do
  let chain ← trouble (workplace.inspector.resolve workplace.templates.lookup leaf .empty).1
  return ⟨written format (.array (chain.links.map (·.structured)))
    (workplace.surroundings.palette.chain chain.links), false⟩

/-- Lists the templates. -/
def names (workplace : Workplace) : Except Trouble (List String) :=
  (trouble workplace.templates.list).mapError fun trouble =>
    trouble.within ("Failed to list templates in " ++ workplace.templates.root)

/-- The status of each of the templates. -/
def statuses (workplace : Workplace) (names : List String) : List TemplateStatus :=
  let answered := workplace.inspector.introspectAll workplace.templates.lookup .empty names
  List.zipWith TemplateStatus.ofResult names answered.results

/-- Shows the list of the templates, with their status if `check`. -/
def list (workplace : Workplace) (format : Format) (check : Bool) : Except Trouble Completion := do
  let names ← workplace.names
  if check then
    let statuses := workplace.statuses names
    return ⟨written format (.array (statuses.map (·.structured)))
      (workplace.surroundings.palette.statuses statuses), false⟩
  else
    return ⟨written format (.ofStrings names) (workplace.surroundings.palette.names names), false⟩

/-- Carries out a command. -/
def run (workplace : Workplace) (format : Format) : Command → Except Trouble Completion
  | .introspect leaf => workplace.introspect format leaf
  | .validate leaf content => workplace.validate format leaf content
  | .chain leaf => workplace.chain format leaf
  | .list check => workplace.list format check

end Workplace

/-- Carries out an invocation. -/
def Invocation.run (surroundings : Surroundings) (invocation : Invocation) :
    Except Trouble Completion := do
  (← Workplace.ofInvocation surroundings invocation).run invocation.format invocation.command

end Lineage.CommandLine
