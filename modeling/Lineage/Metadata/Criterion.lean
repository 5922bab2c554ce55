import Lineage.Regex.Parse
import Lineage.Text.Blank

/-!
# What rules demand

A rule demands either that a content matches a pattern, or does not match it, or that a structural
check holds of the analysis of a chain.
-/

namespace Lineage

open Lineage.Text

/-- A structural check. -/
inductive Check where
  /-- Every required variable is described. -/
  | requiredVariablesDocumented
  /-- Every variable is described. -/
  | variablesDocumented
  /-- No template defines a block that is never rendered. -/
  | noDeadOverrides
  | blockDefined (block : String)
  /-- The content carries a stamp that names the template and its version. -/
  | stamped
deriving DecidableEq, Repr

/-- Why a check cannot be made from its name and its block. -/
inductive CheckDefect where
  | unknown (name : String)
  | blockMissing
  | blockUnwanted (name : String)
deriving DecidableEq, Repr

/-- The wording of a defect. -/
def CheckDefect.message : CheckDefect → String
  | .unknown name => "unknown check '" ++ name ++ "'"
  | .blockMissing => "block_defined requires a 'block' name"
  | .blockUnwanted name => "'block' does not apply to check '" ++ name ++ "'"

namespace Check

/-- The name of a check. -/
def name : Check → String
  | .requiredVariablesDocumented => "required_variables_documented"
  | .variablesDocumented => "variables_documented"
  | .noDeadOverrides => "no_dead_overrides"
  | .blockDefined _ => "block_defined"
  | .stamped => "scaffold_stamp"

/-- The block that a check is about, if it is about one. -/
def block? : Check → Option String
  | .blockDefined block => some block
  | _ => none

/-- The checks that are not about a block. -/
def general : List Check :=
  [.requiredVariablesDocumented, .variablesDocumented, .noDeadOverrides, .stamped]

/-- The check with the given name, about the given block.  The name of a block that is only blanks
counts as none. -/
def ofName (name : String) (block : Option String) : Except CheckDefect Check :=
  if name == (blockDefined "").name then
    match block with
    | some block =>
      if isBlankText block.toList then .error .blockMissing else .ok (.blockDefined block)
    | none => .error .blockMissing
  else
    match general.find? (·.name == name) with
    | none => .error (.unknown name)
    | some check => if block.isSome then .error (.blockUnwanted name) else .ok check

end Check

/-- What a rule demands. -/
inductive Criterion where
  /-- The content matches the pattern with the given written form, unless that is forbidden. -/
  | content (written : String) (pattern : Regex.Pattern) (forbidden : Bool)
  | structural (check : Check)

end Lineage
