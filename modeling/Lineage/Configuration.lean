import Lineage.Explanation
import Lineage.Inspector
import Lineage.TemplateDirectory
import Lineage.Toml.Document

/-!
# Configurations

A configuration says where the templates are, which extensions their files have and how long chains
may be.  It is read from a TOML document with the tables `templates` and `resolution`, in which
every key may be missing and no other key may stand.  A table may be written as an array of the
values of its keys, and further items of the array do not count.
-/

namespace Lineage

open Lineage.Text

/-- A configuration. -/
structure Configuration where
  /-- The directory of the templates. -/
  directory : String
  extensions : List String
  maxDepth : Nat
deriving DecidableEq, Repr

/-- The value of a configuration that is not allowed. -/
inductive ConfigurationDefect where
  | maxDepthZero
  | noExtension
  | blankExtension (written : List Char)
deriving DecidableEq, Repr

/-- The hexadecimal digits of a number. -/
def hexadecimal (n : Nat) : List Char :=
  Nat.toDigits 16 n

/-- A blank as it is shown: a space as it is, and all others as escapes. -/
def showBlank (c : Char) : List Char :=
  if c = ' ' then [c]
  else if c = '\t' then ['\\', 't']
  else if c = '\n' then ['\\', 'n']
  else if c = '\r' then ['\\', 'r']
  else '\\' :: 'u' :: '{' :: hexadecimal c.toNat ++ ['}']

/-- The wording of a defect. -/
def ConfigurationDefect.message : ConfigurationDefect → String
  | .maxDepthZero => "resolution.max_depth must be at least 1"
  | .noExtension => "templates.extensions must not be empty"
  | .blankExtension written =>
    "templates.extensions contains an empty entry \"" ++
      String.ofList (written.flatMap showBlank) ++
      "\""

namespace Configuration

/-- The configuration where nothing is said. -/
def standard : Configuration :=
  ⟨"templates", defaultExtensions, defaultMaxDepth⟩

/-- The name of the file that is read if it is there. -/
def localName : String :=
  "scaffold.toml"

/-- The first defect of a configuration. -/
def defect? (configuration : Configuration) : Option ConfigurationDefect :=
  if configuration.maxDepth = 0 then some .maxDepthZero
  else if configuration.extensions.isEmpty then some .noExtension
  else
    (configuration.extensions.find? fun extension => isBlankText extension.toList).map fun blank =>
      .blankExtension blank.toList

/-- The extensions without dots at their start. -/
def plainExtensions (configuration : Configuration) : List String :=
  configuration.extensions.map fun extension =>
    String.ofList (extension.toList.dropWhile (· == '.'))

/-- The directory of the templates, seen from the given directory. -/
def directoryFrom (configuration : Configuration) (workingDirectory : String) : String :=
  Path.join workingDirectory configuration.directory

/-! ## Documents -/

/-- Reads a text. -/
def text? : Toml.Value → Option String
  | .string text => some text
  | _ => none

/-- Reads a list of texts. -/
def texts? : Toml.Value → Option (List String)
  | .array items => items.mapM text?
  | _ => none

/-- Reads a number that fits into 64 bits. -/
def number? : Toml.Value → Option Nat
  | .integer (.ofNat n) => if n < UInt64.size then some n else none
  | _ => none

/-- Reads the value of a key, which may be missing. -/
def field? {α : Type} (fields : List (String × Toml.Value)) (key : String) (missing : α)
    (read : Toml.Value → Option α) : Option α :=
  match fields.lookup key with
  | some value => read value
  | none => some missing

/-- The fields of a table with the given keys.  An array gives their values in order. -/
def fields? (keys : List String) : Toml.Value → Option (List (String × Toml.Value))
  | .table fields => if fields.all fun field => keys.contains field.1 then some fields else none
  | .array items => some (keys.zip items)
  | _ => none

/-- Reads the table `templates`: a directory and extensions. -/
def templates? (value : Toml.Value) : Option (String × List String) := do
  let fields ← fields? ["dir", "extensions"] value
  return (← field? fields "dir" standard.directory text?,
    ← field? fields "extensions" standard.extensions texts?)

/-- Reads the table `resolution`: a greatest length. -/
def resolution? (value : Toml.Value) : Option Nat := do
  let fields ← fields? ["max_depth"] value
  field? fields "max_depth" standard.maxDepth number?

/-- The configuration with the given text. -/
def ofText? (text : List Char) : Option Configuration := do
  let fields ← fields? ["templates", "resolution"] (.table (← Toml.ofText? text))
  let (directory, extensions) ←
    field? fields "templates" (standard.directory, standard.extensions) templates?
  let maxDepth ← field? fields "resolution" standard.maxDepth resolution?
  return ⟨directory, extensions, maxDepth⟩

/-! ## Files -/

/-- The configuration in a file. -/
def ofFile (files : FileSystem) (path : String) : Except Trouble Configuration :=
  match files.readText path with
  | .error error =>
    .error ((Trouble.of (.file error.message)).within ("Failed to read config from " ++ path))
  | .ok text =>
    match ofText? text.toList with
    | none => .error ((Trouble.of .document).within ("Failed to parse config from " ++ path))
    | some configuration =>
      match configuration.defect? with
      | some defect =>
        .error ((Trouble.of (.failure (.configuration defect.message))).within
          ("Invalid config in " ++ path))
      | none => .ok configuration

/-- The configuration in the file that is named explicitly, or else in the one that the environment
names, or else in the file of the working directory, if there is one. -/
def load (files : FileSystem) (explicit environment : Option String) (workingDirectory : String) :
    Except Trouble Configuration :=
  match explicit <|> environment.filter (!·.isEmpty) with
  | some path => ofFile files path
  | none =>
    let path := Path.join workingDirectory localName
    if files.hasPath path then ofFile files path else .ok standard

end Configuration

end Lineage
