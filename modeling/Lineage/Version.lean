import Lineage.Text.Split

/-!
# Semantic versions

A version has three numbers, and may have a pre-release and build metadata.  It is written in one
way only: the numbers and the numeric identifiers of a pre-release have no leading zero.
-/

namespace Lineage

open Lineage.Text

/-- A semantic version. -/
structure Version where
  major : Nat
  minor : Nat
  patch : Nat
  /-- The pre-release, empty if there is none. -/
  preRelease : String
  /-- The build metadata, empty if there is none. -/
  build : String
deriving DecidableEq, Repr

namespace Version

/-- The text of a version. -/
def toText (version : Version) : String :=
  let numbers := toString version.major ++ "." ++ toString version.minor ++ "." ++
    toString version.patch
  let preRelease := if version.preRelease.isEmpty then "" else "-" ++ version.preRelease
  let build := if version.build.isEmpty then "" else "+" ++ version.build
  numbers ++ preRelease ++ build

/-- The largest number that a version may have. -/
def numberLimit : Nat :=
  UInt64.size

/-- The number at the start of the text, and the text after it. -/
def number? (text : List Char) : Option (Nat × List Char) :=
  let digits := text.takeWhile Char.isDigit
  let n := digits.foldl (fun n c => 10 * n + (c.toNat - '0'.toNat)) 0
  match digits with
  | [] => none
  | first :: more =>
    if (first = '0' ∧ more ≠ []) ∨ numberLimit ≤ n then none
    else some (n, text.dropWhile Char.isDigit)

/-- A character of an identifier. -/
def isIdentifierChar (c : Char) : Bool :=
  c.isAlphanum || c == '-'

/-- Whether the text is a list of identifiers.  A numeric one has no leading zero if `strict`. -/
def isIdentifiers (strict : Bool) (text : List Char) : Bool :=
  (splitAt '.' text).all fun part =>
    !part.isEmpty && part.all isIdentifierChar &&
      !(strict && part.all Char.isDigit && part.head? == some '0' && part.length > 1)

/-- The text behind the mark with which it begins, and nothing if it does not. -/
def behind? (mark : Char) : List Char → Option (List Char)
  | [] => none
  | c :: rest => if c = mark then some rest else none

/-- The version with the given text. -/
def parse? (text : List Char) : Option Version := do
  let (major, rest) ← number? text
  let (minor, rest) ← (behind? '.' rest).bind number?
  let (patch, rest) ← (behind? '.' rest).bind number?
  let (preRelease, build) ←
    match rest with
    | [] => some ([], [])
    | '-' :: more =>
      let (pre, after) := more.span (· != '+')
      if !isIdentifiers true pre then none
      else
        match after with
        | [] => some (pre, [])
        | _ :: build => if isIdentifiers false build then some (pre, build) else none
    | '+' :: build => if isIdentifiers false build then some ([], build) else none
    | _ => none
  return ⟨major, minor, patch, String.ofList preRelease, String.ofList build⟩

end Version

end Lineage
