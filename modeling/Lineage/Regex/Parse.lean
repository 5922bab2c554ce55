import Lineage.Regex.Pattern
import Lineage.Text.Blank
import Lineage.Text.Digit

/-!
# The written form of a regular expression

The reader keeps the group that it stands in, the groups around it and the flags in force.  A flag
set inside a group holds until the group ends.  There are no look-around assertions and no
back-references; what is not part of the language is refused, and so is a pattern whose automaton
would be too large.
-/

namespace Lineage.Regex

open Lineage.Text

/-- The flags that change the meaning of what follows them. -/
structure Flags where
  ignoreCase : Bool
  multiLine : Bool
  dotAll : Bool
  crlf : Bool
  unicode : Bool
  /-- Blanks and comments in the pattern mean nothing. -/
  verbose : Bool

/-- The flags at the start of a pattern. -/
def Flags.initial : Flags :=
  ⟨false, false, false, false, true, false⟩

/-- Sets or clears the flag with the given letter. -/
def Flags.set? (flags : Flags) (letter : Char) (value : Bool) : Option Flags :=
  match letter with
  | 'i' => some { flags with ignoreCase := value }
  | 'm' => some { flags with multiLine := value }
  | 's' => some { flags with dotAll := value }
  | 'R' => some { flags with crlf := value }
  | 'u' => some { flags with unicode := value }
  | 'x' => some { flags with verbose := value }
  | 'U' => some flags
  | _ => none

/-- The text without the blanks and comments at its start, if these mean nothing. -/
def skipIgnored (flags : Flags) (text : List Char) : List Char :=
  if flags.verbose then go (text.length + 1) text else text
where
  go : Nat → List Char → List Char
    | 0, text => text
    | fuel + 1, text =>
      match text with
      | '#' :: rest => go fuel (rest.dropWhile (· != '\n'))
      | c :: rest => if isBlank c then go fuel rest else text
      | [] => []

/-! ## Escapes -/

/-- What stands behind a backslash. -/
inductive Escape where
  /-- A code point, and whether it is written as a byte. -/
  | point (n : Nat) (isByte : Bool)
  | set (chars : CharClass)
  | anchor (condition : Anchor)

/-- The characters with a meaning of their own. -/
def metaCharacters : List Char :=
  "\\.+*?()|[]\x7b\x7d^$#&-~".toList

/-- Whether the character stands for itself behind a backslash. -/
def isEscapable (c : Char) : Bool :=
  metaCharacters.contains c || (c.toNat < 0x80 && !c.isAlphanum && c != '<' && c != '>')

/-- A code point that is a character. -/
def scalar? (n : Nat) : Option Nat :=
  if n.isValidChar then some n else none

/-- A hexadecimal escape with `count` digits, or with any number of digits in braces. -/
def hexEscape? (count : Nat) (text : List Char) : Option (Escape × List Char) :=
  match text with
  | '{' :: rest =>
    let digits := rest.takeWhile (· != '}')
    match rest.dropWhile (· != '}') with
    | '}' :: after => do
      let n ← (digits? 16 digits).bind scalar?
      return (.point n false, after)
    | _ => none
  | _ => do
    if text.length < count then failure
    let n ← (digits? 16 (text.take count)).bind scalar?
    return (.point n (count == 2), text.drop count)

/-- The class that the text between the braces of a property escape names. -/
def propertyClass? (name : List Char) : Option CharClass :=
  match splitName name with
  | some (property, negated, value) =>
    (CharClass.valued? (String.ofList property) (String.ofList value)).map (.negateIf negated)
  | none => CharClass.named? (String.ofList name)
where
  splitName : List Char → Option (List Char × Bool × List Char)
    | '!' :: '=' :: rest => some ([], true, rest)
    | ':' :: rest => some ([], false, rest)
    | '=' :: rest => some ([], false, rest)
    | c :: rest => (splitName rest).map fun (property, found) => (c :: property, found)
    | [] => none

/-- A property escape: one letter, or a name in braces. -/
def propertyEscape? (flags : Flags) (negated : Bool) (text : List Char) :
    Option (Escape × List Char) := do
  if !flags.unicode then failure
  let (name, rest) ←
    match text with
    | [] => none
    | '\\' :: _ => none
    | '{' :: rest =>
      match rest.dropWhile (· != '}') with
      | '}' :: after => some (rest.takeWhile (· != '}'), after)
      | _ => none
    | c :: rest => some ([c], rest)
  let chars ← propertyClass? name
  return (.set ((chars.variantsIf flags.ignoreCase).negateIf negated), rest)

/-- A word boundary, of a special kind if its name follows in braces. -/
def boundaryEscape? (flags : Flags) (text : List Char) : Option (Escape × List Char) :=
  let plain : Escape := .anchor (.wordBoundary flags.unicode)
  match text with
  | '{' :: rest =>
    let isNameChar (c : Char) : Bool := c.isAlpha || c == '-'
    match skipIgnored flags rest with
    | [] => none
    | first :: more =>
      if isNameChar first then
        match (first :: more).dropWhile isNameChar with
        | '}' :: after =>
          match String.ofList ((first :: more).takeWhile isNameChar) with
          | "start" => some (.anchor (.wordStart flags.unicode), after)
          | "end" => some (.anchor (.wordEnd flags.unicode), after)
          | "start-half" => some (.anchor (.wordStartHalf flags.unicode), after)
          | "end-half" => some (.anchor (.wordEndHalf flags.unicode), after)
          | _ => none
        | _ => none
      else some (plain, text)
  | _ => some (plain, text)

/-- What the text behind a backslash stands for, and the text after it. -/
def escape? (flags : Flags) : List Char → Option (Escape × List Char)
  | [] => none
  | c :: rest =>
    let point (n : Nat) : Option (Escape × List Char) := some (.point n false, rest)
    match c with
    | 'x' => hexEscape? 2 rest
    | 'u' => hexEscape? 4 rest
    | 'U' => hexEscape? 8 rest
    | 'p' => propertyEscape? flags false rest
    | 'P' => propertyEscape? flags true rest
    | 'd' | 's' | 'w' =>
      (CharClass.shorthand? flags.unicode c).map fun chars => (.set chars, rest)
    | 'D' | 'S' | 'W' =>
      -- Without Unicode the complement would hold bytes that are no characters.
      if flags.unicode then
        (CharClass.shorthand? true c.toLower).map fun chars => (.set chars.complement, rest)
      else none
    | 'a' => point 0x7
    | 'f' => point 0xC
    | 't' => point 0x9
    | 'n' => point 0xA
    | 'r' => point 0xD
    | 'v' => point 0xB
    | 'A' => some (.anchor .textStart, rest)
    | 'z' => some (.anchor .textEnd, rest)
    | 'b' => boundaryEscape? flags rest
    | 'B' => some (.anchor (.notWordBoundary flags.unicode), rest)
    | '<' => some (.anchor (.wordStart flags.unicode), rest)
    | '>' => some (.anchor (.wordEnd flags.unicode), rest)
    | _ => if isEscapable c then point c.toNat else none

/-! ## Bracketed classes -/

/-- The operations between parts of a bracketed class. -/
inductive SetOperation where
  | intersection
  | difference
  | symmetricDifference

def SetOperation.apply : SetOperation → CharClass → CharClass → CharClass
  | .intersection => .intersection
  | .difference => .difference
  | .symmetricDifference => .symmetricDifference

/-- A member of a bracketed class: a code point or a class. -/
def classMember? (flags : Flags) : List Char → Option ((Nat ⊕ CharClass) × List Char)
  | [] => none
  | '\\' :: rest => do
    let (found, after) ← escape? flags rest
    match found with
    | .point n isByte => if !flags.unicode && isByte && n > 0x7F then none else some (.inl n, after)
    | .set chars => some (.inr chars, after)
    | .anchor _ => none
  | c :: rest => if !flags.unicode && c.toNat > 0x7F then none else some (.inl c.toNat, rest)

/-- A member or a span of a bracketed class. -/
def classRange? (flags : Flags) (text : List Char) : Option (CharClass × List Char) := do
  let (first, after) ← classMember? flags text
  let alone : CharClass :=
    match first with
    | .inl n => .span n n
    | .inr chars => chars
  match skipIgnored flags after with
  | [] => none
  | '-' :: more =>
    match skipIgnored flags more with
    | [] => none
    | ']' :: _ => some (alone, '-' :: more)
    | '-' :: _ => some (alone, '-' :: more)
    | next => do
      let (last, rest) ← classMember? flags next
      match first, last with
      | .inl low, .inl high => if low ≤ high then some (.span low high, rest) else none
      | _, _ => none
  | rest => some (alone, rest)

/-- A class of ASCII characters by name, behind the bracket that opens it. -/
def asciiClass? (text : List Char) : Option (CharClass × List Char) :=
  match text with
  | ':' :: rest =>
    let (negated, named) :=
      match rest with
      | '^' :: more => (true, more)
      | _ => (false, rest)
    match named.dropWhile (· != ':') with
    | ':' :: ']' :: after =>
      (CharClass.ascii? (String.ofList (named.takeWhile (· != ':')))).map fun chars =>
        (chars.negateIf negated, after)
    | _ => none
  | _ => none

/-- The part of a bracketed class that is complete, with the operation that waits for the next
part. -/
abbrev PendingOperation := Option (SetOperation × CharClass)

/-- Joins the last part of a class to what waits for it. -/
def joinPending (flags : Flags) (pending : PendingOperation) (members : List CharClass) :
    CharClass :=
  let last := CharClass.unionAll members.reverse
  match pending with
  | none => last
  | some (operation, left) =>
    operation.apply (left.variantsIf flags.ignoreCase) (last.variantsIf flags.ignoreCase)

/-- Whether the class is negated, the members that are literal for their position, and the text
after them. -/
def classOpening? (flags : Flags) (text : List Char) :
    Option (Bool × List CharClass × List Char) := do
  let (negated, afterSign) :=
    match skipIgnored flags text with
    | '^' :: rest => (true, skipIgnored flags rest)
    | rest => (false, rest)
  let hyphens := afterSign.takeWhile (· == '-')
  let rest := skipIgnored flags (afterSign.dropWhile (· == '-'))
  let members := hyphens.map CharClass.single
  match rest with
  | [] => none
  | ']' :: more =>
    if hyphens.isEmpty then some (negated, [.single ']'], more) else some (negated, members, rest)
  | _ => some (negated, members, rest)

/-- The members of a bracketed class up to its closing bracket.  The fuel bounds the number of
members, which is no larger than the length of the text. -/
def classMembers? (fuel : Nat) (flags : Flags) (negated : Bool) (pending : PendingOperation)
    (members : List CharClass) (text : List Char) : Option (CharClass × List Char) :=
  match fuel with
  | 0 => none
  | fuel + 1 =>
    match skipIgnored flags text with
    | [] => none
    | ']' :: rest =>
      let all := (joinPending flags pending members).variantsIf flags.ignoreCase
      if negated && !flags.unicode then none else some (all.negateIf negated, rest)
    | '[' :: rest =>
      match asciiClass? rest with
      | some (chars, after) => classMembers? fuel flags negated pending (chars :: members) after
      | none => do
        let (innerNegated, first, inside) ← classOpening? flags rest
        let (inner, after) ← classMembers? fuel flags innerNegated none first.reverse inside
        classMembers? fuel flags negated pending (inner :: members) after
    | '&' :: '&' :: rest =>
      let left := joinPending flags pending members
      classMembers? fuel flags negated (some (.intersection, left)) [] rest
    | '-' :: '-' :: rest =>
      let left := joinPending flags pending members
      classMembers? fuel flags negated (some (.difference, left)) [] rest
    | '~' :: '~' :: rest =>
      classMembers? fuel flags negated
        (some (.symmetricDifference, joinPending flags pending members)) [] rest
    | rest => do
      let (range, after) ← classRange? flags rest
      classMembers? fuel flags negated pending (range :: members) after

/-- The bracketed class behind its opening bracket. -/
def bracketed? (flags : Flags) (text : List Char) : Option (CharClass × List Char) := do
  let (negated, first, inside) ← classOpening? flags text
  classMembers? (text.length + 1) flags negated none first.reverse inside

/-! ## Groups -/

/-- The alternatives and the items of a group read so far, each in reverse.  An item carries whether
it may be repeated. -/
structure Level where
  alternatives : List Pattern
  items : List (Pattern × Bool)

def Level.empty : Level :=
  ⟨[], []⟩

/-- The items, one after another. -/
def Level.sequence (level : Level) : Pattern :=
  level.items.foldl (fun rest item => match rest with
    | .empty => item.1
    | _ => .sequence item.1 rest) .empty

/-- The whole group. -/
def Level.pattern (level : Level) : Pattern :=
  level.alternatives.foldl (fun right left => .alternative left right) level.sequence

/-- Adds an item. -/
def Level.add (level : Level) (item : Pattern) (repeatable : Bool) : Level :=
  { level with items := (item, repeatable) :: level.items }

/-- Ends an alternative. -/
def Level.alternate (level : Level) : Level :=
  ⟨level.sequence :: level.alternatives, []⟩

/-- What is known after a part of a pattern has been read. -/
structure Reading where
  flags : Flags
  level : Level
  /-- The groups around the open one, each with the flags that held before it. -/
  around : List (Level × Flags)
  /-- The names of the groups so far. -/
  names : List (List Char)

/-- Repeats the last item. -/
def Reading.repeatLast? (reading : Reading) (least : Nat) (most : Option Nat) : Option Reading :=
  match reading.level.items with
  | (item, true) :: before =>
    some { reading with
      level := { reading.level with items := (.repetition item least most, true) :: before } }
  | _ => none

/-- Adds an item to the open group. -/
def Reading.add (reading : Reading) (item : Pattern) (repeatable : Bool) : Reading :=
  { reading with level := reading.level.add item repeatable }

/-- The text without the question mark that makes a repetition reluctant. -/
def dropReluctant (flags : Flags) (text : List Char) : List Char :=
  match skipIgnored flags text with
  | '?' :: rest => rest
  | rest => rest

/-- A number of at most 32 bits in decimal digits, which blanks may surround. -/
def decimal? (flags : Flags) (text : List Char) : Option Nat × List Char :=
  let start := text.dropWhile isBlank
  let digits := start.takeWhile Char.isDigit
  let n := digits.foldl (fun n c => 10 * n + (c.toNat - '0'.toNat)) 0
  (if digits.isEmpty || n > 0xFFFFFFFF then none else some n,
    skipIgnored flags ((start.dropWhile Char.isDigit).dropWhile isBlank))

/-- The bounds of a counted repetition behind its opening brace, and the text after it. -/
def counts? (flags : Flags) (text : List Char) : Option (Nat × Option Nat × List Char) := do
  let (first, rest) := decimal? flags (skipIgnored flags text)
  let least ← first
  match rest with
  | '}' :: after => return (least, some least, after)
  | ',' :: more =>
    match skipIgnored flags more with
    | '}' :: after => return (least, none, after)
    | bound =>
      let (second, rest) := decimal? flags bound
      let most ← second
      match rest with
      | '}' :: after => if least ≤ most then return (least, some most, after) else none
      | _ => none
  | _ => none

/-- The flags that a group sets: the letters up to a colon or a closing bracket, which is returned
with the text after it. -/
def groupFlags? (flags : Flags) (value : Bool) (seen : List Char) :
    List Char → Option (Flags × Bool × Char × List Char)
  | [] => none
  | c :: rest =>
    if c == ':' || c == ')' then
      if seen.head? == some '-' then none else some (flags, !seen.isEmpty, c, rest)
    else if seen.contains c then none
    else if c == '-' then groupFlags? flags false (c :: seen) rest
    else do
      let changed ← flags.set? c value
      groupFlags? changed value (c :: seen) rest

/-- The name of a group, and the text after its closing bracket. -/
def groupName? (text : List Char) : Option (List Char × List Char) :=
  let name := text.takeWhile (· != '>')
  match name, text.dropWhile (· != '>') with
  | first :: more, '>' :: after =>
    let isFirst := first == '_' || isLetter first
    let isMore (c : Char) : Bool :=
      c == '_' || c == '.' || c == '[' || c == ']' || isLetterOrNumber c
    if isFirst && more.all isMore then some (name, after) else none
  | _, _ => none

/-- Opens a group inside the open one. -/
def Reading.openGroup (reading : Reading) (flags : Flags) : Reading :=
  { reading with
    flags := flags, level := .empty, around := (reading.level, reading.flags) :: reading.around }

/-- Opens a group with a name that no group has yet. -/
def Reading.openNamed? (reading : Reading) (text : List Char) : Option (Reading × List Char) := do
  let (name, after) ← groupName? text
  if reading.names.contains name then failure
  return ({ reading.openGroup reading.flags with names := name :: reading.names }, after)

/-- Reads what stands behind an opening bracket. -/
def Reading.group? (reading : Reading) (text : List Char) : Option (Reading × List Char) :=
  match skipIgnored reading.flags text with
  | '?' :: 'P' :: '<' :: rest => reading.openNamed? rest
  | '?' :: '<' :: '=' :: _ => none
  | '?' :: '<' :: '!' :: _ => none
  | '?' :: '<' :: rest => reading.openNamed? rest
  | '?' :: rest => do
    let (flags, any, closer, after) ← groupFlags? reading.flags true [] rest
    if closer == ':' then some (reading.openGroup flags, after)
    else if any then some ({ reading with flags := flags }.add .empty false, after)
    else none
  | rest => some (reading.openGroup reading.flags, rest)

/-- Closes the open group. -/
def Reading.closeGroup? (reading : Reading) : Option Reading :=
  match reading.around with
  | [] => none
  | (level, flags) :: around =>
    some { reading with
      flags := flags, level := level.add (.group reading.level.pattern) true, around := around }

/-- The pattern of a code point. -/
def Reading.point (reading : Reading) (n : Nat) : Pattern :=
  .chars ((CharClass.span n n).variantsIf reading.flags.ignoreCase)

/-- Reads what stands behind a backslash. -/
def Reading.escaped? (reading : Reading) (text : List Char) : Option (Reading × List Char) := do
  let (found, after) ← escape? reading.flags text
  let item ←
    match found with
    | .point n isByte =>
      if !reading.flags.unicode && isByte && n > 0x7F then none else some (reading.point n)
    | .set chars => some (.chars chars)
    | .anchor condition => some (.anchor condition)
  return (reading.add item true, after)

/-- The class of a dot. -/
def Flags.dot? (flags : Flags) : Option CharClass :=
  if !flags.unicode then none
  else if flags.dotAll then some .everything
  else if flags.crlf then some (.complement (.union (.single '\r') (.single '\n')))
  else some (.complement (.single '\n'))

/-- Reads one item, given its first character and the text behind it. -/
def Reading.item? (reading : Reading) (c : Char) (rest : List Char) :
    Option (Reading × List Char) :=
  let flags := reading.flags
  let repeated (least : Nat) (most : Option Nat) : Option (Reading × List Char) :=
    (reading.repeatLast? least most).map (·, dropReluctant flags rest)
  match c with
  | '(' => reading.group? rest
  | ')' => reading.closeGroup?.map (·, rest)
  | '|' => some ({ reading with level := reading.level.alternate }, rest)
  | '[' =>
    (bracketed? flags rest).map fun (chars, after) => (reading.add (.chars chars) true, after)
  | '?' => repeated 0 (some 1)
  | '*' => repeated 0 none
  | '+' => repeated 1 none
  | '{' => do
    let (least, most, after) ← counts? flags rest
    let next ← reading.repeatLast? least most
    return (next, dropReluctant flags after)
  | '\\' => reading.escaped? rest
  | '.' => flags.dot?.map fun chars => (reading.add (.chars chars) true, rest)
  | '^' =>
    let condition : Anchor := if flags.multiLine then .lineStart flags.crlf else .textStart
    some (reading.add (.anchor condition) true, rest)
  | '$' =>
    let condition : Anchor := if flags.multiLine then .lineEnd flags.crlf else .textEnd
    some (reading.add (.anchor condition) true, rest)
  | _ => some (reading.add (reading.point c.toNat) true, rest)

/-- Reads the rest of a pattern.  Every item takes a character, so the length of the text is fuel
enough. -/
def Reading.finish? (fuel : Nat) (reading : Reading) (text : List Char) : Option Pattern :=
  match skipIgnored reading.flags text with
  | [] => if reading.around.isEmpty then some reading.level.pattern else none
  | c :: rest =>
    match fuel with
    | 0 => none
    | fuel + 1 => do
      let (next, after) ← reading.item? c rest
      next.finish? fuel after

/-- The pattern with the given written form. -/
def Pattern.parse? (text : List Char) : Option Pattern := do
  let pattern ← Reading.finish? text.length ⟨.initial, .empty, [], []⟩ text
  if pattern.depth > depthLimit || pattern.size > sizeLimit then failure
  return pattern

end Lineage.Regex
