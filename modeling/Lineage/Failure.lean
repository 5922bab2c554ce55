import Lineage.Template.Outline

/-!
# Failures of an analysis

The ways in which the analysis of a template can fail, from the reading of its text over the
resolution of its ancestors to the merging of what they declare.  The wording of each is fixed by
`Failure.message`.
-/

namespace Lineage

open Lineage.Template

/-- Why an analysis fails. -/
inductive Failure where
  /-- The text of a template is malformed. -/
  | parse (template : String) (line : Nat) (message : String)
  /-- The parent of a template cannot be known without running it. -/
  | ambiguousExtends (template expression : String)
  | templateNotFound (name : String)
  | missingAncestor (missing requestedBy : String)
  /-- The names visited from the leaf on, of which the last one is a repetition. -/
  | cyclicInheritance (visited : List String)
  | excessiveDepth (leaf : String) (maxDepth : Nat)
  | cancelled (leaf : String)
  /-- The templates cannot be read, for a reason other than that one is missing. -/
  | sourceUnavailable (name reason : String)
  | superWithoutAncestor (template block : String)
  | malformedMetadata (template reason : String)
  | configuration (message : String)
deriving DecidableEq, Repr

/-- The wording of a failure. -/
def Failure.message : Failure → String
  | .parse template line message =>
    "Parse error in template '" ++ template ++ "' at line " ++ toString line ++ ": " ++ message
  | .ambiguousExtends template expression =>
    "Template '" ++ template ++ "' extends a non-constant expression: " ++ expression
  | .templateNotFound name => "Template '" ++ name ++ "' not found"
  | .missingAncestor missing requestedBy =>
    "Template '" ++ missing ++ "' not found (extended by '" ++ requestedBy ++ "')"
  | .cyclicInheritance visited =>
    "Cyclic inheritance detected: " ++ String.intercalate " -> " visited
  | .excessiveDepth leaf maxDepth =>
    "Inheritance chain for '" ++ leaf ++ "' exceeds the maximum depth of " ++ toString maxDepth
  | .cancelled leaf => "Resolution of '" ++ leaf ++ "' was cancelled"
  | .sourceUnavailable name reason => "Cannot read template '" ++ name ++ "': " ++ reason
  | .superWithoutAncestor template block =>
    "Block '" ++ block ++ "' in template '" ++ template ++
      "' calls super() but no ancestor defines it"
  | .malformedMetadata template reason =>
    "Malformed metadata in template '" ++ template ++ "': " ++ reason
  | .configuration message => "Configuration error: " ++ message

/-- The template that a failure is about, if it is about one. -/
def Failure.template? : Failure → Option String
  | .parse template _ _ => some template
  | .ambiguousExtends template _ => some template
  | .templateNotFound name => some name
  | .missingAncestor missing _ => some missing
  | .cyclicInheritance visited => visited.head?
  | .excessiveDepth leaf _ => some leaf
  | .cancelled leaf => some leaf
  | .sourceUnavailable name _ => some name
  | .superWithoutAncestor template _ => some template
  | .malformedMetadata template _ => some template
  | .configuration _ => none

/-- The dynamic parent in a list of nodes, if there is one. -/
def Template.Node.dynamicParent? : Node → Option String
  | .extends (.dynamic expression) _ => some expression
  | _ => none

/-- The structural record of the template `name` with the given text.  A template whose parent is
not a literal is refused. -/
def Template.Parsed.ofTemplate (name : String) (text : List Char) : Except Failure Parsed :=
  match Node.ofTemplate text with
  | .error fault => .error (.parse name fault.line fault.cause.message)
  | .ok nodes =>
    match nodes.findSome? Node.dynamicParent? with
    | some expression => .error (.ambiguousExtends name expression)
    | none => .ok ⟨name, nodes⟩

end Lineage
