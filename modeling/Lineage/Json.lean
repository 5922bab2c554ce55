/-!
# JSON texts

A value is written either without blanks, or with one field or item a line, each level indented by
two blanks more.  The fields of an object keep their order.
-/

namespace Lineage.Json

/-- A value that can be written. -/
inductive Value where
  | null
  | boolean (value : Bool)
  | number (value : Nat)
  | string (text : String)
  | array (items : List Value)
  | object (fields : List (String × Value))

/-- The value of an optional text. -/
def Value.ofOption : Option String → Value
  | some text => .string text
  | none => .null

/-- The value of a list of texts. -/
def Value.ofStrings (texts : List String) : Value :=
  .array (texts.map .string)

/-- The digits of a number below 256 in base 16, of which there are two. -/
def hexDigits (n : Nat) : List Char :=
  [Nat.digitChar (n / 16), Nat.digitChar (n % 16)]

/-- A character as it is written in a string. -/
def escape (c : Char) : List Char :=
  if c = '"' then ['\\', '"']
  else if c = '\\' then ['\\', '\\']
  else if c = '\n' then ['\\', 'n']
  else if c = '\r' then ['\\', 'r']
  else if c = '\t' then ['\\', 't']
  else if c = '\x08' then ['\\', 'b']
  else if c = '\x0c' then ['\\', 'f']
  else if c.toNat < 32 then '\\' :: 'u' :: '0' :: '0' :: hexDigits c.toNat
  else [c]

/-- A string as it is written. -/
def quote (text : String) : String :=
  "\"" ++ String.ofList (text.toList.flatMap escape) ++ "\""

mutual

/-- The text of a value without blanks. -/
def Value.compact : Value → String
  | .null => "null"
  | .boolean value => if value then "true" else "false"
  | .number value => toString value
  | .string text => quote text
  | .array items => "[" ++ String.intercalate "," (compactItems items) ++ "]"
  | .object fields => "\x7b" ++ String.intercalate "," (compactFields fields) ++ "\x7d"

def compactItems : List Value → List String
  | [] => []
  | item :: items => item.compact :: compactItems items

def compactFields : List (String × Value) → List String
  | [] => []
  | (key, value) :: fields => (quote key ++ ":" ++ value.compact) :: compactFields fields

end

/-- The blanks at the start of a line. -/
def indentation (depth : Nat) : String :=
  String.ofList (List.replicate (2 * depth) ' ')

/-- The text of a collection with one entry a line.  The closing bracket stands at the level
`depth`. -/
def inLines (depth : Nat) (opening closing : String) (entries : List String) : String :=
  if entries.isEmpty then opening ++ closing
  else
    let lines := entries.map (indentation (depth + 1) ++ ·)
    opening ++ "\n" ++ String.intercalate ",\n" lines ++ "\n" ++ indentation depth ++ closing

mutual

/-- The text of a value with one entry a line, at the level `depth`. -/
def Value.indented (depth : Nat) : Value → String
  | .null => "null"
  | .boolean value => if value then "true" else "false"
  | .number value => toString value
  | .string text => quote text
  | .array items => inLines depth "[" "]" (indentedItems (depth + 1) items)
  | .object fields => inLines depth "\x7b" "\x7d" (indentedFields (depth + 1) fields)

def indentedItems (depth : Nat) : List Value → List String
  | [] => []
  | item :: items => item.indented depth :: indentedItems depth items

def indentedFields (depth : Nat) : List (String × Value) → List String
  | [] => []
  | (key, value) :: fields =>
    (quote key ++ ": " ++ value.indented depth) :: indentedFields depth fields

end

/-- The text of a value with one entry a line. -/
def Value.pretty (value : Value) : String :=
  value.indented 0

end Lineage.Json
