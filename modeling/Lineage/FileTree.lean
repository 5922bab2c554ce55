import Lineage.Path

/-!
# File trees

A file system is a tree of directories and files, in which a path is followed step by step.  Reading
fails for the reasons, and with the words, of the operating system.
-/

namespace Lineage

open Lineage.Text

/-- A file or a directory. -/
inductive FileTree where
  | file (content : ByteArray)
  | directory (entries : List (String × FileTree))

/-- Why a file cannot be read. -/
inductive FileError where
  | missing
  | notDirectory
  | isDirectory
  | nameTooLong
  | nulCharacter
  /-- The bytes of the file are not UTF-8. -/
  | notText
deriving DecidableEq, Repr

/-- The wording of an error. -/
def FileError.message : FileError → String
  | .missing => "No such file or directory (os error 2)"
  | .notDirectory => "Not a directory (os error 20)"
  | .isDirectory => "Is a directory (os error 21)"
  | .nameTooLong => "File name too long (os error 36)"
  | .nulCharacter => "file name contained an unexpected NUL byte"
  | .notText => "stream did not contain valid UTF-8"

namespace FileTree

/-- The directory without an entry. -/
def empty : FileTree :=
  .directory []

/-- The entry of a directory with the given name. -/
def child? (name : String) : FileTree → Option FileTree
  | .file _ => none
  | .directory entries => entries.lookup name

/-- Whether the tree is a directory. -/
def isDirectory : FileTree → Bool
  | .file _ => false
  | .directory _ => true

/-- The greatest length of a name, in bytes. -/
def nameLimit : Nat :=
  255

/-- The length in bytes from which on a path is too long. -/
def pathLimit : Nat :=
  4096

/-- What the steps of a path lead to.  `above` are the directories on the way to the current tree,
the nearest one first. -/
def follow (above : List FileTree) (current : FileTree) :
    List String → Except FileError FileTree
  | [] => .ok current
  | step :: steps =>
    if !current.isDirectory then .error .notDirectory
    else if step == "" || step == "." then follow above current steps
    else if step == Path.parentStep then
      match above with
      | [] => follow [] current steps
      | parent :: further => follow further parent steps
    else if step.utf8ByteSize > nameLimit then .error .nameTooLong
    else
      match current.child? step with
      | some next => follow (current :: above) next steps
      | none => .error .missing

/-- What an absolute path leads to. -/
def find (root : FileTree) (path : String) : Except FileError FileTree :=
  if path.toList.contains '\x00' then .error .nulCharacter
  else if path.isEmpty then .error .missing
  else if path.utf8ByteSize ≥ pathLimit then .error .nameTooLong
  else follow [] root ((splitAt '/' path.toList).map String.ofList)

/-- The text of the file that a path leads to. -/
def readText (root : FileTree) (path : String) : Except FileError String :=
  match root.find path with
  | .error error => .error error
  | .ok (.directory _) => .error .isDirectory
  | .ok (.file content) =>
    match String.fromUTF8? content with
    | some text => .ok text
    | none => .error .notText

/-- Whether a path leads to a directory. -/
def hasDirectory (root : FileTree) (path : String) : Bool :=
  match root.find path with
  | .ok tree => tree.isDirectory
  | .error _ => false

/-- Whether a path leads to something. -/
def hasPath (root : FileTree) (path : String) : Bool :=
  match root.find path with
  | .ok _ => true
  | .error _ => false

mutual

/-- The files of a tree, each with the names that lead to it. -/
def files : FileTree → List (List String × ByteArray)
  | .file content => [([], content)]
  | .directory entries => filesOf entries

def filesOf : List (String × FileTree) → List (List String × ByteArray)
  | [] => []
  | (name, tree) :: entries =>
    tree.files.map (fun (names, content) => (name :: names, content)) ++ filesOf entries

/-- The directories of a tree, each by the names that lead to it.  A directory comes before those in
it. -/
def directories : FileTree → List (List String)
  | .file _ => []
  | .directory entries => [] :: directoriesOf entries

def directoriesOf : List (String × FileTree) → List (List String)
  | [] => []
  | (name, tree) :: entries => tree.directories.map (name :: ·) ++ directoriesOf entries

end

/-- The tree with a new tree at the end of the names.  What stands in the way is replaced, and
missing directories are made. -/
def place (tree : FileTree) (new : FileTree) : List String → FileTree
  | [] => new
  | name :: names =>
    let entries :=
      match tree with
      | .directory entries => entries
      | .file _ => []
    let below := (((entries.lookup name).getD .empty).place new names)
    .directory ((name, below) :: entries.filter (·.1 != name))

end FileTree

/-- A file system and the directory in which relative paths begin. -/
structure FileSystem where
  root : FileTree
  workingDirectory : String

namespace FileSystem

/-- The path that is followed for a path, which may be relative.  An empty path leads nowhere. -/
def absolute (files : FileSystem) (path : String) : String :=
  if path.isEmpty then path else Path.join files.workingDirectory path

/-- The text of a file. -/
def readText (files : FileSystem) (path : String) : Except FileError String :=
  files.root.readText (files.absolute path)

/-- Whether a path leads to a directory. -/
def hasDirectory (files : FileSystem) (path : String) : Bool :=
  files.root.hasDirectory (files.absolute path)

/-- Whether a path leads to something. -/
def hasPath (files : FileSystem) (path : String) : Bool :=
  files.root.hasPath (files.absolute path)

/-- What a path leads to. -/
def find (files : FileSystem) (path : String) : Except FileError FileTree :=
  files.root.find (files.absolute path)

end FileSystem

end Lineage
