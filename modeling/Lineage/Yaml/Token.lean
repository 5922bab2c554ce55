import Lineage.Text.Digit

/-!
# Tokens of a YAML document

The characters of a document are cut into tokens, among them the marks by which indentation opens
and closes block collections.  The key of a mapping is only known for one when its colon is met: up
to then the position of the first token that may be a key is remembered, and the mark for a key is
put in front of that token afterwards.  Such a key has to lie on one line and within 1024
characters.

The margin is one more than the column of the innermost block collection, and zero outside all of
them.
-/

namespace Lineage.Yaml

/-- How a scalar is written. -/
inductive Style where
  | plain
  | singleQuoted
  | doubleQuoted
  | literal
  | folded
deriving DecidableEq, Repr

/-- A token of a document. -/
inductive Token where
  | versionDirective (major minor : Nat)
  | tagDirective (handle address : String)
  | documentStart
  | documentEnd
  | blockSequenceStart
  | blockMappingStart
  | blockEnd
  | flowSequenceStart
  | flowSequenceEnd
  | flowMappingStart
  | flowMappingEnd
  | blockEntry
  | flowEntry
  | key
  | value
  | alias_ (name : String)
  | anchor (name : String)
  | tag (handle suffix : String)
  | scalar (text : String) (style : Style)
deriving DecidableEq, Repr

/-! ## Characters -/

/-- A space or a tab. -/
def isBlank (c : Char) : Bool :=
  c == ' ' || c == '\t'

/-- A character that ends a line. -/
def isBreak (c : Char) : Bool :=
  c == '\n' || c == '\r' || c == '\x85' || c == '\u2028' || c == '\u2029'

/-- A character of a name. -/
def isName (c : Char) : Bool :=
  c.isAlphanum || c == '_' || c == '-'

/-- A character that a document may contain. -/
def isAllowed (c : Char) : Bool :=
  let n := c.toNat
  n == 0x9 || n == 0xA || n == 0xD || (0x20 ≤ n && n ≤ 0x7E) || n == 0x85 ||
    (0xA0 ≤ n && n ≤ 0xD7FF) || (0xE000 ≤ n && n ≤ 0xFFFD) || 0x10000 ≤ n

/-- A place in a document, with the text from there. -/
structure Cursor where
  rest : List Char
  line : Nat
  column : Nat
  index : Nat

namespace Cursor

/-- The character at a distance. -/
def peek? (cursor : Cursor) (distance : Nat) : Option Char :=
  (cursor.rest.drop distance).head?

/-- Whether a blank, a break or the end of the document is at a distance. -/
def blankOrEndAt (cursor : Cursor) (distance : Nat) : Bool :=
  (cursor.peek? distance).all fun c => isBlank c || isBreak c

/-- Whether a break or the end of the document is here. -/
def atLineEnd (cursor : Cursor) : Bool :=
  cursor.rest.head?.all isBreak

/-- The place behind `count` characters of the line. -/
def skip (cursor : Cursor) (count : Nat) : Cursor :=
  ⟨cursor.rest.drop count, cursor.line, cursor.column + count, cursor.index + count⟩

/-- The place behind the characters of the line that satisfy `p`. -/
def skipWhile (cursor : Cursor) (p : Char → Bool) : Cursor :=
  cursor.skip (cursor.rest.takeWhile p).length

/-- The break at a place, with every kind but the Unicode separators written as a line feed, and the
place behind it. -/
def takeBreak (cursor : Cursor) : List Char × Cursor :=
  match cursor.rest with
  | '\r' :: '\n' :: rest => (['\n'], ⟨rest, cursor.line + 1, 0, cursor.index + 2⟩)
  | c :: rest =>
    if c == '\u2028' || c == '\u2029' then ([c], ⟨rest, cursor.line + 1, 0, cursor.index + 1⟩)
    else if isBreak c then (['\n'], ⟨rest, cursor.line + 1, 0, cursor.index + 1⟩)
    else ([], cursor)
  | [] => ([], cursor)

/-- Whether the mark of a document start or end begins the line here. -/
def atDocumentMark (cursor : Cursor) : Bool :=
  let mark := cursor.rest.take 3
  cursor.column == 0 && (mark == ['-', '-', '-'] || mark == ['.', '.', '.']) &&
    cursor.blankOrEndAt 3

end Cursor

/-! ## Blanks inside a scalar -/

/-- The blanks and breaks between two parts of a scalar. -/
structure Gap where
  /-- The blanks before the first break. -/
  blanks : List Char
  /-- Whether there is a break. -/
  broken : Bool
  firstBreak : List Char
  furtherBreaks : List Char

/-- The text that stands for a gap: a single break is folded to a space. -/
def Gap.text (gap : Gap) : List Char :=
  if !gap.broken then gap.blanks
  else if gap.firstBreak.head? == some '\n' then
    if gap.furtherBreaks.isEmpty then [' '] else gap.furtherBreaks
  else gap.firstBreak ++ gap.furtherBreaks

/-- Reads the blanks and breaks at a place.  Behind a break, a tab before the column `margin` is
refused.  The fuel bounds the number of characters. -/
def readGap? (margin : Nat) (fuel : Nat) (gap : Gap) (cursor : Cursor) : Option (Gap × Cursor) :=
  match fuel, cursor.rest with
  | 0, _ => some (gap, cursor)
  | _, [] => some (gap, cursor)
  | fuel + 1, c :: _ =>
    if isBlank c then
      if gap.broken && cursor.column < margin && c == '\t' then none
      else if gap.broken then readGap? margin fuel gap (cursor.skip 1)
      else readGap? margin fuel { gap with blanks := gap.blanks ++ [c] } (cursor.skip 1)
    else if isBreak c then
      let (text, after) := cursor.takeBreak
      if gap.broken then
        readGap? margin fuel { gap with furtherBreaks := gap.furtherBreaks ++ text } after
      else readGap? margin fuel ⟨[], true, text, []⟩ after
    else some (gap, cursor)

/-! ## Scalars -/

/-- Puts a text in front of a scalar that has been read. -/
def before (text : List Char) : Option (List Char × Cursor) → Option (List Char × Cursor) :=
  Option.map fun (rest, cursor) => (text ++ rest, cursor)

/-- The character that a letter behind a backslash stands for. -/
def escaped? : Char → Option Char
  | '0' => some '\x00'
  | 'a' => some '\x07'
  | 'b' => some '\x08'
  | 't' => some '\t'
  | '\t' => some '\t'
  | 'n' => some '\n'
  | 'v' => some '\x0b'
  | 'f' => some '\x0c'
  | 'r' => some '\r'
  | 'e' => some '\x1b'
  | ' ' => some ' '
  | '"' => some '"'
  | '/' => some '/'
  | '\\' => some '\\'
  | 'N' => some '\x85'
  | '_' => some '\xa0'
  | 'L' => some '\u2028'
  | 'P' => some '\u2029'
  | _ => none

/-- The number of hexadecimal digits that follow a letter behind a backslash. -/
def escapeLength? : Char → Option Nat
  | 'x' => some 2
  | 'u' => some 4
  | 'U' => some 8
  | _ => none

/-- Reads a quoted scalar behind its opening quote.  The fuel bounds the number of characters. -/
def quoted? (double : Bool) (fuel : Nat) (cursor : Cursor) : Option (List Char × Cursor) :=
  match fuel, cursor.rest with
  | 0, _ => none
  | _, [] => none
  | fuel + 1, c :: rest =>
    let afterGap (broken : Bool) (start : Cursor) : Option (List Char × Cursor) := do
      let (gap, after) ← readGap? 0 (start.rest.length + 1) ⟨[], broken, [], []⟩ start
      if after.atDocumentMark then none else before gap.text (quoted? double fuel after)
    if isBlank c || isBreak c then afterGap false cursor
    else if !double && c == '\'' then
      if rest.head? == some '\'' then before ['\''] (quoted? double fuel (cursor.skip 2))
      else some ([], cursor.skip 1)
    else if double && c == '"' then some ([], cursor.skip 1)
    else if double && c == '\\' then
      match rest with
      | [] => none
      | d :: more =>
        if isBreak d then afterGap true (cursor.skip 1).takeBreak.2
        else
          match escapeLength? d with
          | some count =>
            if more.length < count then none
            else do
              let found ← Text.hexChar? (more.take count)
              before [found] (quoted? double fuel (cursor.skip (count + 2)))
          | none => do
            let found ← escaped? d
            before [found] (quoted? double fuel (cursor.skip 2))
    else before [c] (quoted? double fuel (cursor.skip 1))

/-- A character that ends a plain scalar in a flow collection. -/
def isFlowMark (c : Char) : Bool :=
  c == ',' || c == '[' || c == ']' || c == '{' || c == '}'

/-- Whether a plain scalar ends before the character here. -/
def endsPlain (flow : Bool) (cursor : Cursor) : Bool :=
  (cursor.peek? 0 == some ':' && cursor.blankOrEndAt 1) ||
    (flow && (cursor.peek? 0).any isFlowMark)

/-- Whether a colon stands here before a mark of a flow collection. -/
def hasStrayColon (flow : Bool) (cursor : Cursor) : Bool :=
  flow && cursor.peek? 0 == some ':' && (cursor.peek? 1).any fun c => c == '?' || isFlowMark c

/-- Reads a run of a plain scalar up to a blank, a break or its end. -/
def plainRun? (flow : Bool) (fuel : Nat) (cursor : Cursor) : Option (List Char × Cursor) :=
  match fuel, cursor.rest with
  | 0, _ => some ([], cursor)
  | _, [] => some ([], cursor)
  | fuel + 1, c :: _ =>
    if isBlank c || isBreak c then some ([], cursor)
    else if hasStrayColon flow cursor then none
    else if endsPlain flow cursor then some ([], cursor)
    else before [c] (plainRun? flow fuel (cursor.skip 1))

/-- Reads a plain scalar.  The result tells whether a break follows it.  The fuel bounds the number
of runs. -/
def plain? (flow : Bool) (margin : Nat) (fuel : Nat) (gap : Gap) (cursor : Cursor) :
    Option (List Char × Bool × Cursor) :=
  match fuel with
  | 0 => none
  | fuel + 1 =>
    if cursor.atDocumentMark || cursor.peek? 0 == some '#' then some ([], gap.broken, cursor)
    else do
      let (run, after) ← plainRun? flow (cursor.rest.length + 1) cursor
      if run.isEmpty then return ([], gap.broken, after)
      if !(after.rest.head?.any fun c => isBlank c || isBreak c) then
        return (gap.text ++ run, false, after)
      let (next, behind) ← readGap? margin (after.rest.length + 1) ⟨[], false, [], []⟩ after
      if !flow && behind.column < margin then return (gap.text ++ run, next.broken, behind)
      let (text, broken, last) ← plain? flow margin fuel next behind
      return (gap.text ++ run ++ text, broken, last)

/-! ## Block scalars -/

/-- What becomes of the breaks at the end of a block scalar. -/
inductive Chomping where
  | strip
  | clip
  | keep
deriving DecidableEq

/-- The chomping that a sign asks for. -/
def chomping? : Option Char → Option Chomping
  | some '+' => some .keep
  | some '-' => some .strip
  | _ => none

/-- The indentation that a digit asks for. -/
def indentation? : Option Char → Option Nat
  | some c => if c.isDigit then some (c.toNat - '0'.toNat) else none
  | none => none

/-- The chomping and the indentation in the header of a block scalar, and the place behind them. -/
def blockHeader? (cursor : Cursor) : Option (Chomping × Option Nat × Cursor) :=
  let (chomping, indentation, after) :=
    match chomping? (cursor.peek? 0) with
    | some chomping =>
      match indentation? (cursor.peek? 1) with
      | some digit => (chomping, some digit, cursor.skip 2)
      | none => (chomping, none, cursor.skip 1)
    | none =>
      match indentation? (cursor.peek? 0) with
      | some digit =>
        match chomping? (cursor.peek? 1) with
        | some chomping => (chomping, some digit, cursor.skip 2)
        | none => (.clip, some digit, cursor.skip 1)
      | none => (.clip, none, cursor)
  if indentation == some 0 then none else some (chomping, indentation, after)

/-- Reads the empty lines before a line of a block scalar.  Without an indentation the greatest
column that is met is kept track of.  The fuel bounds the number of lines. -/
def blockBreaks? (indentation : Option Nat) (fuel : Nat) (widest : Nat) (breaks : List Char)
    (cursor : Cursor) : Option (Nat × List Char × Cursor) :=
  match fuel with
  | 0 => none
  | fuel + 1 =>
    let room := (indentation.map (· - cursor.column)).getD cursor.rest.length
    let spaces := min room (cursor.rest.takeWhile (· == ' ')).length
    let here := cursor.skip spaces
    let widest := max widest here.column
    if indentation.all (here.column < ·) && here.peek? 0 == some '\t' then none
    else if here.rest.head?.any isBreak then
      let (text, after) := here.takeBreak
      blockBreaks? indentation fuel widest (breaks ++ text) after
    else some (widest, breaks, here)

/-- Reads the lines of a block scalar that are indented by `indentation`.  The text so far ends
before the break `lastBreak` and the empty lines `breaks`.  The fuel bounds the number of lines. -/
def blockLines? (isLiteral : Bool) (indentation : Nat) (fuel : Nat)
    (text lastBreak breaks : List Char) (afterBlank : Bool) (cursor : Cursor) :
    Option (List Char × List Char × List Char × Cursor) :=
  match fuel with
  | 0 => none
  | fuel + 1 =>
    if cursor.column != indentation || cursor.rest.isEmpty then
      some (text, lastBreak, breaks, cursor)
    else do
      let beginsBlank := cursor.rest.head?.any isBlank
      let joint :=
        if !isLiteral && lastBreak.head? == some '\n' && !afterBlank && !beginsBlank then
          if breaks.isEmpty then [' '] else []
        else lastBreak
      let line := cursor.rest.takeWhile (!isBreak ·)
      let (lineBreak, next) := (cursor.skip line.length).takeBreak
      let (_, further, after) ← blockBreaks? (some indentation) (next.rest.length + 1) 0 [] next
      blockLines? isLiteral indentation fuel (text ++ joint ++ breaks ++ line) lineBreak further
        beginsBlank after

/-- Reads a block scalar behind its mark. -/
def block? (isLiteral : Bool) (margin : Nat) (cursor : Cursor) : Option (List Char × Cursor) := do
  let (chomping, increment, afterHeader) ← blockHeader? cursor
  let afterBlanks := afterHeader.skipWhile isBlank
  let lineEnd :=
    if afterBlanks.peek? 0 == some '#' then afterBlanks.skipWhile (!isBreak ·) else afterBlanks
  if !lineEnd.atLineEnd then failure
  let start := lineEnd.takeBreak.2
  let given := increment.map (margin - 1 + ·)
  let (widest, breaks, first) ← blockBreaks? given (start.rest.length + 1) 0 [] start
  let indentation := given.getD (max (max widest margin) 1)
  let (text, lastBreak, further, after) ←
    blockLines? isLiteral indentation (first.rest.length + 1) [] [] breaks false first
  let ending :=
    match chomping with
    | .strip => []
    | .clip => lastBreak
    | .keep => lastBreak ++ further
  return (text ++ ending, after)

/-! ## Names, tags and directives -/

/-- The name of an anchor or an alias. -/
def anchorName? (cursor : Cursor) : Option (String × Cursor) :=
  let name := cursor.rest.takeWhile isName
  let after := cursor.skip name.length
  let ends (c : Char) : Bool := "?:,]\x7d%@\x60".toList.contains c
  if name.isEmpty then none
  else if after.blankOrEndAt 0 || (after.peek? 0).any ends then some (String.ofList name, after)
  else none

/-- A character of the address in a tag. -/
def isAddressChar (verbatim : Bool) (c : Char) : Bool :=
  isName c || ";/?:@&=+$.!~*'()%".toList.contains c ||
    (verbatim && (c == ',' || c == '[' || c == ']'))

/-- The first byte of a character: how many bytes of it follow, and the bits that it gives. -/
def leadByte? (byte : Nat) : Option (Nat × Nat) :=
  if byte < 0x80 then some (0, byte)
  else if byte < 0xC0 then none
  else if byte < 0xE0 then some (1, byte % 0x20)
  else if byte < 0xF0 then some (2, byte % 0x10)
  else if byte < 0xF8 then some (3, byte % 0x08)
  else none

/-- The character with the given code, and a mark of replacement if there is none. -/
def charOrMark (code : Nat) : Char :=
  if code.isValidChar then Char.ofNat code else '\ufffd'

/-- The text of an address, in which a percent sign and two hexadecimal digits write a byte.  The
bytes before give the bits `code` of a character of which `missing` more bytes follow. -/
def unescapeAddress? (missing code : Nat) : List Char → Option (List Char)
  | [] => if missing = 0 then some [] else none
  | '%' :: high :: low :: rest => do
    let byte ← Text.digits? 16 [high, low]
    let (further, bits) ←
      if missing = 0 then leadByte? byte
      else if byte / 0x40 = 2 then some (missing - 1, 0x40 * code + byte % 0x40)
      else none
    let text ← unescapeAddress? further bits rest
    return if further = 0 then charOrMark bits :: text else text
  | '%' :: _ => none
  | c :: rest => if missing = 0 then (unescapeAddress? 0 0 rest).map (c :: ·) else none

/-- The address at a place, and the place behind it. -/
def address? (verbatim : Bool) (cursor : Cursor) : Option (String × Cursor) := do
  let written := cursor.rest.takeWhile (isAddressChar verbatim)
  let text ← unescapeAddress? 0 0 written
  return (String.ofList text, cursor.skip written.length)

/-- The handle of a tag: an exclamation mark, or a name between two of them. -/
def tagHandle (cursor : Cursor) : String × Cursor :=
  let name := (cursor.skip 1).rest.takeWhile isName
  let closed := cursor.peek? (name.length + 1) == some '!'
  let length := name.length + (if closed then 2 else 1)
  (String.ofList (cursor.rest.take length), cursor.skip length)

/-- The tag at a place. -/
def tag? (flow : Bool) (cursor : Cursor) : Option (Token × Cursor) := do
  let (token, after) ←
    if cursor.peek? 1 == some '<' then do
      let (text, behind) ← address? true (cursor.skip 2)
      if text.isEmpty || behind.peek? 0 != some '>' then none
      else some (Token.tag "" text, behind.skip 1)
    else
      let (handle, behind) := tagHandle cursor
      if handle.length ≥ 2 && handle.toList.getLast? == some '!' then do
        let (suffix, last) ← address? false behind
        if suffix.isEmpty then none else some (Token.tag handle suffix, last)
      else do
        let (suffix, last) ← address? false (cursor.skip 1)
        if suffix.isEmpty then some (Token.tag "" "!", last) else some (Token.tag "!" suffix, last)
  if after.blankOrEndAt 0 || (flow && after.peek? 0 == some ',') then some (token, after) else none

/-- The decimal number at a place. -/
def number? (cursor : Cursor) : Option (Nat × Cursor) :=
  let digits := cursor.rest.takeWhile Char.isDigit
  if digits.isEmpty || digits.length > 9 then none
  else some (digits.foldl (fun n c => 10 * n + (c.toNat - '0'.toNat)) 0, cursor.skip digits.length)

/-- The directive at a place, and the place behind its line. -/
def directive? (cursor : Cursor) : Option (Token × Cursor) := do
  let name := (cursor.skip 1).rest.takeWhile isName
  let afterName := cursor.skip (name.length + 1)
  if !afterName.blankOrEndAt 0 then failure
  let content := afterName.skipWhile isBlank
  let (token, after) ←
    match String.ofList name with
    | "YAML" => do
      let (major, behind) ← number? content
      if behind.peek? 0 != some '.' then none
      else do
        let (minor, last) ← number? (behind.skip 1)
        some (Token.versionDirective major minor, last)
    | "TAG" => do
      if content.peek? 0 != some '!' then none
      else do
        let (handle, behind) := tagHandle content
        if handle != "!" && handle.toList.getLast? != some '!' then none
        else if !(behind.rest.head?.any isBlank) then none
        else do
          let (address, last) ← address? true (behind.skipWhile isBlank)
          if address.isEmpty then none
          else if last.blankOrEndAt 0 then some (Token.tagDirective handle address, last)
          else none
    | _ => none
  let blanks := after.skipWhile isBlank
  let lineEnd := if blanks.peek? 0 == some '#' then blanks.skipWhile (!isBreak ·) else blanks
  if lineEnd.atLineEnd then some (token, lineEnd.takeBreak.2) else none

/-! ## The scan -/

/-- A token that may turn out to be a key. -/
structure PossibleKey where
  /-- Whether only a key may stand there. -/
  required : Bool
  /-- The number of tokens before it. -/
  position : Nat
  line : Nat
  column : Nat
  index : Nat

/-- What is known after a part of a document has been cut into tokens. -/
structure Scan where
  cursor : Cursor
  tokens : List Token
  /-- One more than the column of the innermost block collection. -/
  margin : Nat
  /-- The margins around it. -/
  margins : List Nat
  /-- Whether a key may begin here. -/
  keyAllowed : Bool
  /-- The possible key at the level of the innermost flow collection. -/
  key : Option PossibleKey
  /-- The possible keys at the levels around it, innermost first. -/
  outerKeys : List (Option PossibleKey)

namespace Scan

/-- Whether the place lies in a flow collection. -/
def inFlow (scan : Scan) : Bool :=
  !scan.outerKeys.isEmpty

/-- Adds a token, behind which the place is `cursor`. -/
def push (scan : Scan) (token : Token) (cursor : Cursor) : Scan :=
  { scan with tokens := scan.tokens ++ [token], cursor := cursor }

/-- Gives up the possible key of the innermost level, unless only a key may stand there. -/
def dropKey? (scan : Scan) : Option Scan :=
  if scan.key.any (·.required) then none else some { scan with key := none }

/-- Remembers that the next token may be a key. -/
def saveKey? (scan : Scan) : Option Scan := do
  if !scan.keyAllowed then return scan
  let dropped ← scan.dropKey?
  let cursor := scan.cursor
  return { dropped with
    key := some ⟨!scan.inFlow && scan.margin == cursor.column + 1, scan.tokens.length, cursor.line,
      cursor.column, cursor.index⟩ }

/-- Whether a possible key lies on an earlier line or too far back. -/
def isStale (scan : Scan) (key : PossibleKey) : Bool :=
  key.line < scan.cursor.line || key.index + 1024 < scan.cursor.index

/-- Gives up a possible key that is stale, unless only a key may stand there. -/
def keepFresh? (scan : Scan) (key : Option PossibleKey) : Option (Option PossibleKey) :=
  match key with
  | none => some none
  | some found =>
    if scan.isStale found then if found.required then none else some none else some (some found)

/-- Gives up the possible keys that are stale. -/
def dropStale? (scan : Scan) : Option Scan := do
  let key ← scan.keepFresh? scan.key
  let outer ← scan.outerKeys.mapM scan.keepFresh?
  return { scan with key := key, outerKeys := outer }

/-- Opens a block collection at a column right of the margin.  Its mark is put in front of the token
number `position`. -/
def indent (scan : Scan) (column position : Nat) (mark : Token) : Scan :=
  if scan.inFlow || column < scan.margin then scan
  else
    { scan with
      margin := column + 1
      margins := scan.margin :: scan.margins
      tokens := scan.tokens.take position ++ mark :: scan.tokens.drop position }

/-- Closes the block collections whose margin is right of `limit`. -/
def closeTo (limit : Nat) (tokens : List Token) (margin : Nat) :
    List Nat → List Token × Nat × List Nat
  | [] => (tokens, margin, [])
  | outer :: margins =>
    if limit < margin then closeTo limit (tokens ++ [.blockEnd]) outer margins
    else (tokens, margin, outer :: margins)

/-- Closes the block collections right of `limit`, outside flow collections. -/
def unindent (scan : Scan) (limit : Nat) : Scan :=
  if scan.inFlow then scan
  else
    let (tokens, margin, margins) := closeTo limit scan.tokens scan.margin scan.margins
    { scan with tokens := tokens, margin := margin, margins := margins }

/-- The place of the next token.  A break outside flow collections allows a key.  The fuel bounds
the number of lines. -/
def toNextToken (scan : Scan) (fuel : Nat) : Scan :=
  match fuel with
  | 0 => scan
  | fuel + 1 =>
    let start :=
      if scan.cursor.column == 0 && scan.cursor.peek? 0 == some '\ufeff' then scan.cursor.skip 1
      else scan.cursor
    let blanks := start.skipWhile fun c =>
      c == ' ' || ((scan.inFlow || !scan.keyAllowed) && c == '\t')
    let lineEnd := if blanks.peek? 0 == some '#' then blanks.skipWhile (!isBreak ·) else blanks
    if lineEnd.rest.head?.any isBreak then
      { scan with
        cursor := lineEnd.takeBreak.2
        keyAllowed := scan.keyAllowed || !scan.inFlow }.toNextToken fuel
    else { scan with cursor := lineEnd }

/-- Opens a flow collection. -/
def openFlow? (scan : Scan) (token : Token) : Option Scan := do
  let saved ← scan.saveKey?
  return { saved.push token (scan.cursor.skip 1) with
    outerKeys := saved.key :: saved.outerKeys, key := none, keyAllowed := true }

/-- Closes a flow collection. -/
def closeFlow? (scan : Scan) (token : Token) : Option Scan := do
  let dropped ← scan.dropKey?
  let closed := { dropped.push token (scan.cursor.skip 1) with keyAllowed := false }
  match dropped.outerKeys with
  | [] => return closed
  | key :: outer => return { closed with key := key, outerKeys := outer }

/-- Reads the mark of an entry of a block sequence. -/
def blockEntry? (scan : Scan) : Option Scan := do
  if !scan.inFlow && !scan.keyAllowed then failure
  let indented := scan.indent scan.cursor.column scan.tokens.length .blockSequenceStart
  let dropped ← indented.dropKey?
  return { dropped.push .blockEntry (scan.cursor.skip 1) with keyAllowed := true }

/-- Reads the mark of a key. -/
def key? (scan : Scan) : Option Scan := do
  if !scan.inFlow && !scan.keyAllowed then failure
  let indented := scan.indent scan.cursor.column scan.tokens.length .blockMappingStart
  let dropped ← indented.dropKey?
  return { dropped.push .key (scan.cursor.skip 1) with keyAllowed := !scan.inFlow }

/-- Reads the mark of a value.  If a possible key is remembered, it is one. -/
def value? (scan : Scan) : Option Scan :=
  match scan.key with
  | some key =>
    let marked := { scan with
      tokens := scan.tokens.take key.position ++ Token.key :: scan.tokens.drop key.position }
    let indented := marked.indent key.column key.position .blockMappingStart
    some { indented.push .value (scan.cursor.skip 1) with key := none, keyAllowed := false }
  | none =>
    if !scan.inFlow && !scan.keyAllowed then none
    else
      let indented := scan.indent scan.cursor.column scan.tokens.length .blockMappingStart
      some { indented.push .value (scan.cursor.skip 1) with keyAllowed := !scan.inFlow }

/-- Adds a token that may be a key. -/
def keyLike? (scan : Scan) (read : Cursor → Option (Token × Cursor)) : Option Scan := do
  let saved ← scan.saveKey?
  let (token, after) ← read scan.cursor
  return { saved.push token after with keyAllowed := false }

/-- Adds a token that ends all block collections. -/
def atMargin? (scan : Scan) (read : Cursor → Option (Token × Cursor)) : Option Scan := do
  let dropped ← (scan.unindent 0).dropKey?
  let (token, after) ← read scan.cursor
  return { dropped.push token after with keyAllowed := false }

/-- Adds a plain scalar. -/
def plainScalar? (scan : Scan) : Option Scan := do
  let saved ← scan.saveKey?
  let cursor := scan.cursor
  let (text, broken, after) ←
    plain? scan.inFlow scan.margin (cursor.rest.length + 1) ⟨[], false, [], []⟩ cursor
  return { saved.push (.scalar (String.ofList text) .plain) after with keyAllowed := broken }

/-- Whether a plain scalar may begin here. -/
def beginsPlain (scan : Scan) (c : Char) : Bool :=
  let next := scan.cursor.peek? 1
  let indicates (c : Char) : Bool := "-?:,[]\x7b\x7d#&*!|>'\"%@\x60".toList.contains c
  !(isBlank c || indicates c) || (c == '-' && !next.any isBlank) ||
    (!scan.inFlow && (c == '?' || c == ':') && !scan.cursor.blankOrEndAt 1)

/-- Reads one token that begins with the character `c`. -/
def token? (scan : Scan) (c : Char) : Option Scan :=
  let cursor := scan.cursor
  let alone (token : Token) (place : Cursor) : Option (Token × Cursor) := some (token, place.skip 1)
  let named (token : String → Token) (place : Cursor) : Option (Token × Cursor) :=
    (anchorName? (place.skip 1)).map fun (name, after) => (token name, after)
  let quotedToken (double : Bool) (style : Style) (place : Cursor) : Option (Token × Cursor) :=
    (quoted? double (place.rest.length + 1) (place.skip 1)).map fun (text, after) =>
      (.scalar (String.ofList text) style, after)
  let blockToken (isLiteral : Bool) (style : Style) : Option Scan := do
    let dropped ← scan.dropKey?
    let (text, after) ← block? isLiteral scan.margin (cursor.skip 1)
    return { dropped.push (.scalar (String.ofList text) style) after with keyAllowed := true }
  if cursor.column == 0 && c == '%' then scan.atMargin? directive?
  else if cursor.atDocumentMark then
    let mark : Token := if c == '-' then .documentStart else .documentEnd
    scan.atMargin? fun place => some (mark, place.skip 3)
  else if c == '[' then scan.openFlow? .flowSequenceStart
  else if c == '{' then scan.openFlow? .flowMappingStart
  else if c == ']' then scan.closeFlow? .flowSequenceEnd
  else if c == '}' then scan.closeFlow? .flowMappingEnd
  else if c == ',' then do
    let dropped ← scan.dropKey?
    let (token, after) ← alone .flowEntry cursor
    return { dropped.push token after with keyAllowed := true }
  else if c == '-' && cursor.blankOrEndAt 1 then scan.blockEntry?
  else if c == '?' && (scan.inFlow || cursor.blankOrEndAt 1) then scan.key?
  else if c == ':' && (scan.inFlow || cursor.blankOrEndAt 1) then scan.value?
  else if c == '*' then scan.keyLike? (named .alias_)
  else if c == '&' then scan.keyLike? (named .anchor)
  else if c == '!' then scan.keyLike? (tag? scan.inFlow)
  else if c == '|' && !scan.inFlow then blockToken true .literal
  else if c == '>' && !scan.inFlow then blockToken false .folded
  else if c == '\'' then scan.keyLike? (quotedToken false .singleQuoted)
  else if c == '"' then scan.keyLike? (quotedToken true .doubleQuoted)
  else if scan.beginsPlain c then scan.plainScalar?
  else none

/-- The tokens of the rest of the document.  Every token takes a character, so one more than the
length of the text is fuel enough. -/
def finish? (fuel : Nat) (scan : Scan) : Option (List Token) :=
  match fuel with
  | 0 => none
  | fuel + 1 => do
    let fresh ← (scan.toNextToken (scan.cursor.rest.length + 1)).dropStale?
    let placed := fresh.unindent (fresh.cursor.column + 1)
    match placed.cursor.rest with
    | [] =>
      let ended ← (placed.unindent 0).dropKey?
      return ended.tokens
    | c :: _ =>
      let next ← placed.token? c
      next.finish? fuel

end Scan

/-- The tokens of a document, if its characters are allowed and its tokens are well formed. -/
def Token.all? (text : List Char) : Option (List Token) :=
  if text.all isAllowed then
    Scan.finish? (text.length + 1) ⟨⟨text, 0, 0, 0⟩, [], 0, [], true, none, []⟩
  else none

end Lineage.Yaml
