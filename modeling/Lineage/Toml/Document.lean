import Lineage.Toml.Scalar

/-!
# TOML documents

A document assigns values to keys, at first at its top and then in the tables that its headers name.
A dotted key leads into a table that such keys alone have made.  No key is given a value twice, and
no table is named twice.  A header names a table of the document by a single key; those of deeper
tables and of arrays of tables are refused.
-/

namespace Lineage.Toml

open Lineage.Text

/-- A value. -/
inductive Value where
  | string (text : String)
  | integer (value : Int)
  /-- A number with a fraction or an exponent, or one that is not finite. -/
  | real
  | moment
  | boolean (value : Bool)
  | array (items : List Value)
  | table (fields : List (String × Value))
deriving Repr

/-! ## Tables under construction -/

/-- What a key of a table under construction stands for. -/
inductive Item where
  | value (value : Value)
  /-- A table that dotted keys have made. -/
  | group (items : List (String × Item))

/-- Gives the value to the key at the end of a path. -/
def assign? (value : Value) : List String → List (String × Item) → Option (List (String × Item))
  | [], _ => none
  | [key], items =>
    match items.lookup key with
    | some _ => none
    | none => some (items ++ [(key, .value value)])
  | key :: path, items =>
    match items.lookup key with
    | none => (assign? value path []).map fun inner => items ++ [(key, .group inner)]
    | some (.value _) => none
    | some (.group inner) =>
      (assign? value path inner).map fun inner =>
        items.map fun (other, item) => (other, if other == key then .group inner else item)

mutual

/-- The value of an item. -/
def Item.finish : Item → Value
  | .value value => value
  | .group items => .table (finishAll items)

def finishAll : List (String × Item) → List (String × Value)
  | [] => []
  | (key, item) :: items => (key, item.finish) :: finishAll items

end

/-! ## Keys, comments and line ends -/

/-- A character of a key without quotes. -/
def isKeyChar (c : Char) : Bool :=
  c.isAlphanum || c == '-' || c == '_'

/-- The part of a key at the start of the text, and the text after it. -/
def keyPart? (text : List Char) : Option (String × List Char) :=
  match text with
  | '"' :: rest => (basic? rest.length rest).map fun (key, after) => (String.ofList key, after)
  | '\'' :: rest => (literal? rest).map fun (key, after) => (String.ofList key, after)
  | _ =>
    let key := text.takeWhile isKeyChar
    if key.isEmpty then none else some (String.ofList key, text.dropWhile isKeyChar)

/-- The key at the start of the text, and the text behind the blanks after it.  The fuel bounds the
number of its parts. -/
def key? : Nat → List Char → Option (List String × List Char)
  | 0, _ => none
  | fuel + 1, text => do
    let (part, rest) ← keyPart? text
    match skipGaps rest with
    | '.' :: more =>
      let (parts, after) ← key? fuel (skipGaps more)
      return (part :: parts, after)
    | after => return ([part], after)

/-- The text behind a comment, which may be missing. -/
def skipComment? : List Char → Option (List Char)
  | '#' :: rest =>
    let after := rest.dropWhile fun c => !isControl c
    if after.isEmpty || (afterBreak? after).isSome then some after else none
  | text => some text

/-- The text behind the end of a line, which only blanks and a comment precede. -/
def lineEnd? (text : List Char) : Option (List Char) := do
  match ← skipComment? (skipGaps text) with
  | [] => some []
  | after => afterBreak? after

/-- The text behind blanks, line breaks and comments.  The fuel bounds the number of lines. -/
def skipLines? : Nat → List Char → Option (List Char)
  | 0, text => some text
  | fuel + 1, text =>
    match skipGaps text with
    | [] => some []
    | c :: rest =>
      if c == '#' || c == '\n' || c == '\r' then
        match lineEnd? (c :: rest) with
        | some after => skipLines? fuel after
        | none => none
      else some (c :: rest)

/-! ## Values -/

/-- The scalar that a word writes. -/
def wordValue? (word : List Char) : Option Value :=
  if word == "true".toList then some (.boolean true)
  else if word == "false".toList then some (.boolean false)
  else
    match integer? word with
    | some n => some (.integer n)
    | none =>
      if isReal word then some .real
      else if isMoment word then some .moment
      else none

/-- The scalar without quotes at the start of the text, and the text after it.  A blank may stand
between the date and the time of a moment. -/
def word? (text : List Char) : Option (Value × List Char) :=
  let word := text.takeWhile isWordChar
  let rest := text.dropWhile isWordChar
  match rest with
  | ' ' :: more =>
    if isDate word && more.head?.any Char.isDigit then
      let time := more.takeWhile isWordChar
      (wordValue? (word ++ 'T' :: time)).map (·, more.dropWhile isWordChar)
    else (wordValue? word).map (·, rest)
  | _ => (wordValue? word).map (·, rest)

/-- How deep arrays and tables are nested at most. -/
def depthLimit : Nat :=
  80

mutual

/-- The value at the start of the text, and the text after it. -/
def value? (fuel depth : Nat) (text : List Char) : Option (Value × List Char) :=
  match fuel, text with
  | 0, _ => none
  | _, [] => none
  | fuel + 1, c :: rest =>
    if c == '"' || c == '\'' then
      (string? (c :: rest)).map fun (read, after) => (.string (String.ofList read), after)
    else if c == '[' then
      if depth = depthLimit then none
      else (items? fuel (depth + 1) rest).map fun (items, after) => (.array items, after)
    else if c == '{' then
      if depth = depthLimit then none
      else (fields? fuel (depth + 1) [] rest).map fun (items, after) =>
        (.table (finishAll items), after)
    else word? (c :: rest)
termination_by fuel

/-- The items of an array behind its bracket or a comma, and the text behind the closing bracket. -/
def items? (fuel depth : Nat) (text : List Char) : Option (List Value × List Char) :=
  match fuel with
  | 0 => none
  | fuel + 1 => do
    match ← skipLines? (text.length + 1) text with
    | ']' :: rest => some ([], rest)
    | start =>
      let (item, rest) ← value? fuel depth start
      match ← skipLines? (rest.length + 1) rest with
      | ']' :: after => some ([item], after)
      | ',' :: more => (items? fuel depth more).map fun (items, after) => (item :: items, after)
      | _ => none
termination_by fuel

/-- The fields of an inline table behind its bracket or a comma, added to those before, and the text
behind the closing bracket. -/
def fields? (fuel depth : Nat) (items : List (String × Item)) (text : List Char) :
    Option (List (String × Item) × List Char) :=
  match fuel with
  | 0 => none
  | fuel + 1 => do
    match ← skipLines? (text.length + 1) text with
    | '}' :: rest => some (items, rest)
    | start =>
      let (path, rest) ← key? (start.length + 1) start
      let (value, rest) ←
        match rest with
        | '=' :: more => value? fuel depth (skipGaps more)
        | _ => none
      let items ← assign? value path items
      match ← skipLines? (rest.length + 1) rest with
      | '}' :: after => some (items, after)
      | ',' :: more => fields? fuel depth items more
      | _ => none
termination_by fuel

end

/-! ## Documents -/

/-- A document that is being read: the finished items, and the table that the last header names. -/
structure Reading where
  items : List (String × Item)
  latest? : Option (String × List (String × Item))

namespace Reading

/-- The items, of which the table of the last header is one. -/
def close (reading : Reading) : List (String × Item) :=
  match reading.latest? with
  | some (key, items) => reading.items ++ [(key, .value (.table (finishAll items)))]
  | none => reading.items

/-- Begins the table with the given key. -/
def header? (reading : Reading) (path : List String) : Option Reading :=
  match path with
  | [key] =>
    if (reading.close.lookup key).isSome then none else some ⟨reading.close, some (key, [])⟩
  | _ => none

/-- Gives a value to a key. -/
def assign? (reading : Reading) (path : List String) (value : Value) : Option Reading :=
  match reading.latest? with
  | some (key, items) =>
    (Toml.assign? value path items).map fun items => { reading with latest? := some (key, items) }
  | none => (Toml.assign? value path reading.items).map fun items => { reading with items }

/-- Reads the header or the assignment at the start of the text. -/
def statement? (reading : Reading) (text : List Char) : Option (Reading × List Char) :=
  match text with
  | '[' :: rest => do
    let (path, after) ← key? rest.length (skipGaps rest)
    match after with
    | ']' :: behind => return (← reading.header? path, behind)
    | _ => none
  | _ => do
    let (path, after) ← key? text.length text
    match after with
    | '=' :: more =>
      let (value, behind) ← value? (text.length + 1) 0 (skipGaps more)
      return (← reading.assign? path value, behind)
    | _ => none

/-- Reads the lines of a document.  The fuel bounds their number. -/
def lines? : Nat → Reading → List Char → Option Reading
  | 0, _, _ => none
  | fuel + 1, reading, text => do
    match ← skipLines? (text.length + 1) text with
    | [] => return reading
    | start =>
      let (reading, rest) ← reading.statement? start
      lines? fuel reading (← lineEnd? rest)

end Reading

/-- The text without the byte order mark at its start. -/
def withoutMark : List Char → List Char
  | '\ufeff' :: rest => rest
  | text => text

/-- The fields of the document with the given text. -/
def ofText? (text : List Char) : Option (List (String × Value)) :=
  let text := withoutMark text
  (Reading.lines? (text.length + 1) ⟨[], none⟩ text).map fun reading => finishAll reading.close

end Lineage.Toml
