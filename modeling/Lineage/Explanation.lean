import Lineage.Failure

/-!
# Explanations of failures

A command fails because of a failure of an analysis, of a file that cannot be read, or for another
reason, and what it was doing may be said around that.  The explanation for its user adds details
and a suggestion.
-/

namespace Lineage

/-- The innermost reason why a command fails. -/
inductive Cause where
  | failure (failure : Failure)
  /-- A file cannot be read; the text is that of the operating system. -/
  | file (message : String)
  /-- A configuration file is not a TOML document of the right form. -/
  | document
  | other (message : String)
deriving DecidableEq, Repr

/-- The wording of a cause.  That of a bad document is left open. -/
def Cause.message : Cause → String
  | .failure reason => reason.message
  | .file message => message
  | .document => ""
  | .other message => message

/-- A cause and what was being done, the outermost activity first. -/
structure Trouble where
  cause : Cause
  contexts : List String
deriving DecidableEq, Repr

namespace Trouble

/-- The trouble with nothing around its cause. -/
def of (cause : Cause) : Trouble :=
  ⟨cause, []⟩

/-- The trouble with one more activity around it. -/
def within (trouble : Trouble) (context : String) : Trouble :=
  { trouble with contexts := context :: trouble.contexts }

/-- The messages from the outermost to the innermost. -/
def messages (trouble : Trouble) : List String :=
  trouble.contexts ++ [trouble.cause.message]

/-- The outermost message. -/
def headline (trouble : Trouble) : String :=
  trouble.messages.headD ""

end Trouble

/-- A failure with what helps its user. -/
structure Explanation where
  failure : Failure
  suggestion : Option String
  details : Option String
deriving DecidableEq, Repr

namespace Explanation

/-- The suggestion that goes with a failure. -/
def suggestion? : Failure → Option String
  | .parse .. =>
    some <| "Check the template for unclosed \x7b\x7b \x7d\x7d, \x7b% %\x7d or \x7b# #\x7d " ++
      "delimiters and unbalanced block/if/for tags"
  | .ambiguousExtends .. =>
    some "Use a quoted template name, e.g. \x7b% extends \"base.j2\" %\x7d"
  | .templateNotFound _ =>
    some "Run 'scaffold list' to see the available templates, or pass --templates-dir"
  | .missingAncestor _ requestedBy =>
    some ("Create the missing template or fix the extends tag in '" ++ requestedBy ++ "'")
  | .cyclicInheritance _ => some "Remove the extends tag that points back into the chain"
  | .excessiveDepth .. =>
    some "Flatten the hierarchy or raise [resolution] max_depth in scaffold.toml"
  | .cancelled _ => none
  | .sourceUnavailable .. => some "Check file permissions in the templates directory"
  | .superWithoutAncestor .. =>
    some "Remove the super() call or define the block in a parent template"
  | .malformedMetadata .. =>
    some <| "Metadata needs a semantic version (e.g. 1.2.0) and an enforcement level of NONE, " ++
      "ADVISORY, STRICT or ARCHITECTURAL"
  | .configuration _ => none

/-- The details that go with a failure. -/
def details? : Failure → Option String
  | .ambiguousExtends .. =>
    some "Inheritance can only be analyzed when the parent name is a string literal"
  | .cyclicInheritance _ =>
    some "A template cannot inherit from itself, directly or through its ancestors"
  | .superWithoutAncestor .. =>
    some "super() renders the parent's version of the block, which does not exist here"
  | _ => none

/-- The explanation of a failure. -/
def ofFailure (failure : Failure) : Explanation :=
  ⟨failure, suggestion? failure, details? failure⟩

/-- The explanation of trouble.  What is said around a failure of an analysis or of a file is left
out. -/
def ofTrouble (trouble : Trouble) : Explanation :=
  match trouble.cause with
  | .failure failure => ofFailure failure
  | .file message =>
    ⟨.configuration message, some "Check that the file or directory exists and is readable", none⟩
  | _ =>
    let details := String.intercalate ": " trouble.messages.tail
    ⟨.configuration trouble.headline, none, if details.isEmpty then none else some details⟩

/-- The text of an explanation. -/
def toText (explanation : Explanation) : String :=
  let details :=
    match explanation.details with
    | some text => "\nDetails: " ++ text
    | none => ""
  let suggestion :=
    match explanation.suggestion with
    | some text => "\nSuggestion: " ++ text
    | none => ""
  explanation.failure.message ++ details ++ suggestion

end Explanation

end Lineage
