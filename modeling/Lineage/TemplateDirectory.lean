import Lineage.FileTree
import Lineage.Source

/-!
# Directories of templates

The templates of a directory are its files.  A name is a path below the directory, to which one of
the known extensions may be added: the first of these paths that leads to a file gives the template.
Only the files with a known extension are listed.
-/

namespace Lineage

/-- The extensions that are known where nothing else is said. -/
def defaultExtensions : List String :=
  ["j2", "jinja", "jinja2", "tmpl"]

/-- A directory of templates. -/
structure TemplateDirectory where
  files : FileSystem
  root : String
  extensions : List String

namespace TemplateDirectory

/-- The paths at which a template may be found, in the order in which they are tried. -/
def candidates (directory : TemplateDirectory) (name : String) : List String :=
  Path.join directory.root name ::
    directory.extensions.map fun extension => Path.join directory.root (name ++ "." ++ extension)

/-- The first text among the paths.  A path that leads nowhere or to a directory is passed over. -/
def firstText (files : FileSystem) : List String → Except (String × FileError) (Option String)
  | [] => .ok none
  | path :: paths =>
    match files.readText path with
    | .ok text => .ok (some text)
    | .error .missing => firstText files paths
    | .error error =>
      if files.hasDirectory path then firstText files paths else .error (path, error)

/-- Looks up the templates of the directory. -/
def lookup (directory : TemplateDirectory) : Lookup := fun name =>
  match TemplateName.defect? name with
  | some defect => .error (.sourceUnavailable name defect.message)
  | none =>
    match firstText directory.files (directory.candidates name) with
    | .ok text => .ok (text.map Source.ofText)
    | .error (path, error) => .error (.sourceUnavailable name (path ++ ": " ++ error.message))

/-- Whether the name of a file has a known extension. -/
def isKnown (directory : TemplateDirectory) (fileName : String) : Bool :=
  (Path.extension? fileName).any directory.extensions.contains

/-- The name of the template in a file, if it is listed.  The directory itself may be a file. -/
def listedName? (directory : TemplateDirectory) (names : List String) : Option String :=
  let fileName := (names.getLast? <|> Path.fileName? directory.root).getD ""
  if directory.isKnown fileName then some (String.intercalate "/" names) else none

/-- The path of what the names lead to. -/
def pathOf (directory : TemplateDirectory) : List String → String
  | [] => directory.root
  | names => Path.join directory.root (String.intercalate "/" names)

/-- The failure to list the directory because of what happened at a path. -/
def listingFailure (directory : TemplateDirectory) (path : String) (error : FileError) : Failure :=
  .sourceUnavailable directory.root ("IO error for operation on " ++ path ++ ": " ++ error.message)

/-- The failure to open a directory of the tree, if there is one.  Each directory is opened by its
whole path. -/
def openFailure? (directory : TemplateDirectory) (tree : FileTree) : Option Failure :=
  tree.directories.findSome? fun names =>
    match directory.files.find (directory.pathOf names) with
    | .ok _ => none
    | .error error => some (directory.listingFailure (directory.pathOf names) error)

/-- The names of the templates in ascending order. -/
def list (directory : TemplateDirectory) : Except Failure (List String) :=
  match directory.files.find directory.root with
  | .error error => .error (directory.listingFailure directory.root error)
  | .ok tree =>
    match directory.openFailure? tree with
    | some failure => .error failure
    | none =>
      let names := tree.files.filterMap fun (names, _) => directory.listedName? names
      .ok (names.mergeSort fun a b => !(b < a))

end TemplateDirectory

end Lineage
