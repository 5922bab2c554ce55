import Lineage.Text.Blank

/-!
# Provenance stamps

A generated file names the template that it comes from in a line that contains
`SCAFFOLD: template=ID version=VERSION`, where the version may be missing.  A line can hold several
stamps.
-/

namespace Lineage

open Lineage.Text

/-- A stamp, and the line in which it stands, counted from one. -/
structure Stamp where
  template : String
  version : Option String
  line : Nat
deriving DecidableEq, Repr

namespace Stamp

/-- The text of a stamp behind its marker. -/
def toText (stamp : Stamp) : String :=
  "template=" ++ stamp.template ++
    match stamp.version with
    | some version => " version=" ++ version
    | none => ""

/-- Whether the stamp names the template and, if one is expected, exactly the version. -/
def names (stamp : Stamp) (template : String) (version : Option String) : Bool :=
  stamp.template == template && (version.isNone || stamp.version == version)

/-- The word at the start of the text, which has at least one character, and the text after it. -/
def word? (text : List Char) : Option (List Char × List Char) :=
  let word := text.takeWhile (!isBlank ·)
  if word.isEmpty then none else some (word, text.dropWhile (!isBlank ·))

/-- The version behind at least one blank, and the text after it. -/
def version? (text : List Char) : Option (List Char × List Char) :=
  if text.head?.any isBlank then
    (after? "version=".toList (trimStart text)).bind word?
  else none

/-- The stamp at the start of the text, and the text after it. -/
def first? (line : Nat) (text : List Char) : Option (Stamp × List Char) := do
  let marked ← after? "SCAFFOLD:".toList text
  let named ← after? "template=".toList (trimStart marked)
  let (template, rest) ← word? named
  match version? rest with
  | some (version, after) =>
    return (⟨String.ofList template, some (String.ofList version), line⟩, after)
  | none => return (⟨String.ofList template, none, line⟩, rest)

/-- The stamps in a line, from left to right and without overlap.  The fuel bounds the number of
characters. -/
def inLine (line : Nat) : Nat → List Char → List Stamp
  | 0, _ => []
  | _, [] => []
  | fuel + 1, c :: rest =>
    match first? line (c :: rest) with
    | some (stamp, after) => stamp :: inLine line fuel after
    | none => inLine line fuel rest

/-- The stamps in a content, in the order of its lines. -/
def all (content : List Char) : List Stamp :=
  ((lines content).zipIdx 1).flatMap fun (line, number) => inLine number line.length line

end Stamp

end Lineage
