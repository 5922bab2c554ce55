import Lineage.Bytewise.Checked
import Lineage.Template.Segment

/-!
# Segments by positions

A template is cut into segments by a position that moves over its bytes.  An opening delimiter is
looked for byte by byte, the end of a body character by character, and every text is a slice of the
template between two positions.
-/

namespace Lineage.Bytewise

open Lineage.Text Lineage.Template

/-- The number of line breaks, counted in bytes. -/
def newlines (text : List Char) : Nat :=
  (bytes text).count '\n'.toUInt8

/-- The construct whose opening delimiter has the byte behind its brace. -/
def construct? (byte : UInt8) : Option Construct :=
  if byte = '\x7b'.toUInt8 then some .output
  else if byte = '%'.toUInt8 then some .tag
  else if byte = '#'.toUInt8 then some .comment
  else none

/-- The first opening delimiter at a position or behind it, and its construct. -/
def findOpening (source : List UInt8) (position : Nat) : Option (Option (Nat × Construct)) :=
  if position < source.length - 1 then do
    let first ← source[position]?
    if first = '\x7b'.toUInt8 then
      let second ← source[position + 1]?
      match construct? second with
      | some construct => return some (position, construct)
      | none => findOpening source (position + 1)
    else findOpening source (position + 1)
  else return none
termination_by source.length - position

/-- The closing delimiter of a construct. -/
def closing : Construct → List Char
  | .output => ['\x7d', '\x7d']
  | .tag => ['%', '\x7d']
  | .comment => ['#', '\x7d']

/-- The position of the closing delimiter of a body, given what of the source begins at `position`.
The body is left there inside the quotation mark `quote`, behind a backslash if `escaped`, and
inside `braces` open braces. -/
def findClosing (source delimiter : List Char) (quote : Option Char) (escaped : Bool)
    (braces position : Nat) : List Char → Checked Template.Cause (Option Nat)
  | [] => if quote.isSome then throw .unterminatedString else return none
  | c :: rest =>
    let next := position + c.utf8Size
    match quote with
    | some mark =>
      if escaped then findClosing source delimiter quote false braces next rest
      else if c = '\\' then findClosing source delimiter quote true braces next rest
      else if c = mark then findClosing source delimiter none escaped braces next rest
      else findClosing source delimiter quote escaped braces next rest
    | none =>
      if c = '"' ∨ c = '\'' then findClosing source delimiter (some c) escaped braces next rest
      else if 0 < braces ∧ c = '\x7d' then do
        let fewer ← minus? braces 1
        findClosing source delimiter none escaped fewer next rest
      else do
        let behind ← slice? source position (byteLength source)
        if delimiter.isPrefixOf behind then return some position
        else if c = '\x7b' then findClosing source delimiter none escaped (braces + 1) next rest
        else findClosing source delimiter none escaped braces next rest

/-- The position of the closing delimiter of a construct whose inside begins at `start`. -/
def findEnd (source : List Char) (construct : Construct) (start : Nat) :
    Checked Template.Cause (Option Nat) := do
  let inside ← slice? source start (byteLength source)
  match construct with
  | .comment => return (splitAtCommentEnd inside).map fun (inner, _) => start + byteLength inner
  | _ => findClosing source (closing construct) none false 0 start inside

/-- Where the first `endraw` tag at a position or behind it begins, and where it ends. -/
def findEndRaw (source : List Char) (position : Nat) : Option (Option (Nat × Nat)) := do
  let (_, rest) ← splitAtByte? position source
  match splitAtEndRaw rest with
  | none => return none
  | some (run, ending) =>
    let start := position + byteLength run
    let length ← minus? (byteLength ending) (byteLength ((afterEndRaw? ending).getD []))
    return some (start, start + length)

/-- The segments of the construct between the position of its opening delimiter and that of its
closing one, the position behind it and the line there. -/
def constructBetween (source : List Char) (construct : Construct) (opening stop line : Nat) :
    Checked Fault (List Segment × Nat × Nat) := do
  let inner ← slice? source (opening + 2) stop
  let whole ← slice? source opening (stop + 2)
  let behind := line + newlines whole
  match construct with
  | .output => return ([.output (bodyOf inner) line], stop + 2, behind)
  | .comment => return ([.comment (bodyOf inner) line], stop + 2, behind)
  | .tag =>
    if bodyOf inner = "raw".toList then
      match ← findEndRaw source (stop + 2) with
      | none => throw ⟨line, .unclosedRaw⟩
      | some (runStop, sectionStop) =>
        let run ← slice? source (stop + 2) runStop
        let passed ← slice? source (stop + 2) sectionStop
        let text : List Segment := if run.isEmpty then [] else [.text run behind]
        return (text, sectionStop, behind + newlines passed)
    else return ([.tag (bodyOf inner) line], stop + 2, behind)

/-- The segments of the construct whose opening delimiter stands at the position `opening`, the
position behind it and the line there. -/
def constructAt (source : List Char) (construct : Construct) (opening line : Nat) :
    Checked Fault (List Segment × Nat × Nat) := do
  match ← (findEnd source construct (opening + 2)).adapt (Fault.mk line) with
  | none => throw ⟨line, .unterminated construct⟩
  | some stop => constructBetween source construct opening stop line

/-- The segments of a template from a position on, which is in the given line. -/
def segmentsFrom (source : List Char) (position line : Nat) : Checked Fault (List Segment) := do
  if position < byteLength source then
    match ← findOpening (bytes source) position with
    | none =>
      let run ← slice? source position (byteLength source)
      return [.text run line]
    | some (opening, construct) =>
      if position < opening then
        let run ← slice? source position opening
        let (here, next, behind) ← constructAt source construct opening (line + newlines run)
        let ⟨_⟩ ← isBelow? position next
        let others ← segmentsFrom source next behind
        return .text run line :: (here ++ others)
      else
        let (here, next, behind) ← constructAt source construct opening line
        let ⟨_⟩ ← isBelow? position next
        let others ← segmentsFrom source next behind
        return here ++ others
  else return []
termination_by byteLength source - position

end Lineage.Bytewise
