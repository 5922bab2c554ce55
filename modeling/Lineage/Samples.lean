/-!
# Sample templates

Small sets of templates on which the analyses can be tried: a chain of four templates with
declarations and overrides, a block that is never rendered, a cycle, a missing parent, and chains of
any length.
-/

namespace Lineage

/-- A template with its name. -/
structure SampleTemplate where
  name : String
  text : String
deriving DecidableEq, Repr

namespace Sample

/-- The text of a tag. -/
def tag (content : String) : String :=
  "\x7b% " ++ content ++ " %\x7d"

/-- The text of an output. -/
def output (content : String) : String :=
  "\x7b\x7b " ++ content ++ " \x7d\x7d"

/-- The text of a comment. -/
def comment (content : String) : String :=
  "\x7b# " ++ content ++ "#\x7d"

/-- The text of a tag that names the parent. -/
def extendsTag (parent : String) : String :=
  tag ("extends \"" ++ parent ++ "\"")

/-- The text of a block. -/
def block (name content : String) : String :=
  tag ("block " ++ name) ++ content ++ tag "endblock"

/-- Lines, each of which is ended. -/
def lines (lines : List String) : String :=
  String.join (lines.map (· ++ "\n"))

/-- The root of the layered set. -/
def layeredRoot : String :=
  lines [
    comment (lines [
      "scaffold:metadata",
      "template_id: universal",
      "version: 1.0.0",
      "enforcement: STRICT",
      "variables:",
      "  template_id: Identifier of the producing template",
      "rules:",
      "  - id: R1",
      "    description: Generated files carry a provenance stamp",
      "    pattern: \"SCAFFOLD:\""]),
    "# SCAFFOLD: template=" ++ output "template_id" ++ " version=" ++
      output "version | default(\"0.0.0\")",
    block "header" "",
    block "body" ""]

/-- The second template of the layered set. -/
def layeredCode : String :=
  lines [
    extendsTag "root",
    block "header" (output "super()" ++ "# language: " ++ output "language")]

/-- The third template of the layered set. -/
def layeredPython : String :=
  lines [
    extendsTag "code",
    tag "block body",
    tag "set shebang = \"#!/usr/bin/env python3\"" ++ output "shebang",
    "import " ++ output "module_name",
    tag "endblock"]

/-- The leaf of the layered set. -/
def layeredComponent : String :=
  lines [
    extendsTag "python",
    comment (lines [
      "scaffold:metadata",
      "template_id: python-component",
      "version: 1.2.0",
      "enforcement: ADVISORY",
      "variables:",
      "  class_name: Name of the generated class",
      "rules:",
      "  - id: R2",
      "    description: Modules declare their architectural layer",
      "    pattern: \"@layer:\""]),
    tag "block body" ++ output "super()",
    "# id: " ++ output "template_id | default(\"python-component\")",
    "class " ++ output "class_name" ++ ":",
    tag "for field in fields" ++ "    " ++ output "field.name" ++ ": " ++ output "field.type",
    tag "endfor" ++ tag "if docstring" ++ "    \"\"\"" ++ output "docstring" ++ "\"\"\"",
    tag "endif" ++ tag "endblock"]

/-- A chain of four templates, of which the root and the leaf declare rules. -/
def layered : List SampleTemplate :=
  [⟨"root", layeredRoot⟩, ⟨"code", layeredCode⟩, ⟨"python", layeredPython⟩,
    ⟨"component", layeredComponent⟩]

/-- A leaf with a block that nothing renders. -/
def deadFooter : List SampleTemplate :=
  [⟨"root", block "header" "" ++ block "body" ""⟩,
    ⟨"leaf", extendsTag "root" ++ block "body" (output "title") ++ block "footer" "(c)"⟩]

/-- Two templates that extend each other. -/
def cyclic : List SampleTemplate :=
  [⟨"a", extendsTag "b"⟩, ⟨"b", extendsTag "a"⟩]

/-- A template whose parent is missing. -/
def orphan : List SampleTemplate :=
  [⟨"orphan", extendsTag "ghost" ++ output "x"⟩]

/-- A chain of the given length, from the root on. -/
def linear (length : Nat) : List SampleTemplate :=
  (List.range length).map fun
    | 0 => ⟨"t0", block "body" ""⟩
    | n + 1 => ⟨"t" ++ toString (n + 1), extendsTag ("t" ++ toString n)⟩

/-- The name of the file that holds a template. -/
def fileName (template : SampleTemplate) : String :=
  template.name ++ ".j2"

end Sample

end Lineage
