import Lineage.Text.Blank
import Lineage.Text.Split

/-!
# Paths

A path is a list of steps that are separated by slashes.  Several slashes in a row count as one, and
a single dot is a step that leads nowhere.
-/

namespace Lineage.Path

open Lineage.Text

/-- The steps of a path without empty ones and single dots. -/
def steps (path : String) : List String :=
  ((splitAt '/' path.toList).map String.ofList).filter fun step => step != "" && step != "."

/-- Whether a path begins at the root of the file system. -/
def isAbsolute (path : String) : Bool :=
  path.toList.head? == some '/'

/-- The path that leads from a directory on.  An absolute path does so from everywhere. -/
def join (directory path : String) : String :=
  if isAbsolute path || directory.isEmpty then path
  else if directory.toList.getLast? == some '/' then directory ++ path
  else directory ++ "/" ++ path

/-- The step up to the parent directory. -/
def parentStep : String :=
  ".."

/-- The steps down that a path takes in the end, where a step up takes back the one before. -/
def downward (path : String) : List String :=
  (steps path).foldl
    (fun taken step => if step == parentStep then taken.dropLast else taken ++ [step])
    []

/-- The last step of a path, if it leads down. -/
def fileName? (path : String) : Option String :=
  match (steps path).getLast? with
  | some step => if step == parentStep then none else some step
  | none => none

/-- The part of a file name behind its last dot, if there is something before that. -/
def extension? (name : String) : Option String :=
  let parts := splitAt '.' name.toList
  match parts.dropLast, parts.getLast? with
  | [], _ => none
  | [[]], _ => none
  | _, some extension => some (String.ofList extension)
  | _, none => none

end Lineage.Path

namespace Lineage.TemplateName

open Lineage.Text

/-- What is wrong with the name of a template.  It has to lead from the directory of the templates
down. -/
inductive Defect where
  | blank
  | absolute (name : String)
  | parentStep (name : String)
deriving DecidableEq, Repr

/-- The wording of a defect. -/
def Defect.message : Defect → String
  | .blank => "Template name is empty"
  | .absolute name => "Template name must be relative to the templates directory: " ++ name
  | .parentStep name => "Template name contains parent directory reference (..): " ++ name

/-- The defect of a name, if it has one. -/
def defect? (name : String) : Option Defect :=
  if isBlankText name.toList then some .blank
  else if Path.isAbsolute name then some (.absolute name)
  else if (Path.steps name).contains Path.parentStep then some (.parentStep name)
  else none

/-- The name that consists of the downward steps alone. -/
def normalize (name : String) : String :=
  String.intercalate "/" ((Path.steps name).filter (· != Path.parentStep))

end Lineage.TemplateName
