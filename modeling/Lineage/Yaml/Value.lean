import Lineage.Decimal
import Lineage.Yaml.Node

/-!
# The values of YAML nodes

A plain scalar without a tag is null, a boolean, a number or a string, by its text alone; every
other scalar is a string unless its tag says what it is.  A reader that wants a string takes the
text of any scalar, and one that wants an optional value takes null as absence.
-/

namespace Lineage.Yaml

open Lineage.Text (digits?)

/-- The value of a node. -/
inductive Value where
  | null
  | boolean (value : Bool)
  | integer (value : Int)
  /-- A number that is not an integer, by its text. -/
  | real (text : String)
  | string (text : String)
  | sequence (items : List Value)
  | mapping (pairs : List (Value × Value))
  | tagged (tag : String) (inner : Value)
deriving Repr

mutual

/-- Whether two values are the same. -/
def Value.isSame : Value → Value → Bool
  | .null, .null => true
  | .boolean value, .boolean other => value == other
  | .integer value, .integer other => value == other
  | .real text, .real other => text == other
  | .string text, .string other => text == other
  | .sequence items, .sequence others => Value.areSame items others
  | .mapping pairs, .mapping others => Value.areSamePairs pairs others
  | .tagged tag inner, .tagged otherTag other => tag == otherTag && inner.isSame other
  | _, _ => false

def Value.areSame : List Value → List Value → Bool
  | [], [] => true
  | value :: values, other :: others => value.isSame other && Value.areSame values others
  | _, _ => false

def Value.areSamePairs : List (Value × Value) → List (Value × Value) → Bool
  | [], [] => true
  | (key, value) :: pairs, (otherKey, other) :: others =>
    key.isSame otherKey && value.isSame other && Value.areSamePairs pairs others
  | _, _ => false

end

instance : BEq Value :=
  ⟨Value.isSame⟩

/-! ## Plain scalars -/

/-- Whether the text writes null. -/
def isNull (text : String) : Bool :=
  text == "null" || text == "Null" || text == "NULL" || text == "~"

/-- The boolean that the text writes. -/
def boolean? (text : String) : Option Bool :=
  if text == "true" || text == "True" || text == "TRUE" then some true
  else if text == "false" || text == "False" || text == "FALSE" then some false
  else none

/-- The text without one of the characters at its start. -/
def withoutFirst (c : Char) (text : List Char) : List Char :=
  match text with
  | first :: rest => if first == c then rest else text
  | [] => []

/-- Whether the text is all digits, with a sign or without, and begins with a superfluous zero. -/
def hasLeadingZero (text : List Char) : Bool :=
  let digits :=
    match text with
    | '-' :: rest => rest
    | '+' :: rest => rest
    | _ => text
  digits.length > 1 && digits.head? == some '0' && digits.all Char.isDigit

/-- The number behind the mark of its base. -/
def based? (text : List Char) : Option Nat :=
  match text with
  | '0' :: 'x' :: rest => digits? 16 rest
  | '0' :: 'o' :: rest => digits? 8 rest
  | '0' :: 'b' :: rest => digits? 2 rest
  | _ => none

/-- The integer that the text writes, in decimal or with the mark of a base. -/
def integer? (text : List Char) : Option Int :=
  match text with
  | '-' :: rest =>
    match based? rest with
    | some n => some (-n)
    | none => if hasLeadingZero text then none else (digits? 10 rest).map fun n => -n
  | _ =>
    let unsigned := withoutFirst '+' text
    match based? unsigned with
    | some n => some n
    | none => if hasLeadingZero text then none else (digits? 10 unsigned).map fun n => n

/-- The text of the number with a point or an exponent that is written. -/
def real? (text : List Char) : Option String :=
  let unsigned := withoutFirst '+' text
  if [".inf", ".Inf", ".INF"].contains (String.ofList unsigned) then some ".inf"
  else if ["-.inf", "-.Inf", "-.INF"].contains (String.ofList text) then some "-.inf"
  else if [".nan", ".NaN", ".NAN"].contains (String.ofList text) then some ".nan"
  else do
    let (digits, power) ← decimal? (withoutFirst '-' unsigned)
    let number ← Binary.ofDecimal? digits power
    if unsigned.head? == some '-' && text.head? == some '+' then none
    else if unsigned.head? == some '-' then some ("-" ++ number.toText)
    else some number.toText

/-- The least and the greatest integer that a value may be, and those that a reader may be
offered. -/
def integerBounds : Int × Int :=
  (-(Nat.pow 2 63 : Nat), (Nat.pow 2 64 : Nat))

def offeredBounds : Int × Int :=
  (-(Nat.pow 2 127 : Nat), (Nat.pow 2 128 : Nat))

/-- The value of an integer.  One that is too large for a value but not for a reader is refused. -/
def integerValue? (text : List Char) : Option (Option Value) :=
  match integer? text with
  | none => none
  | some n =>
    if integerBounds.1 ≤ n ∧ n < integerBounds.2 then some (some (.integer n))
    else if offeredBounds.1 ≤ n ∧ n < offeredBounds.2 then some none
    else none

/-- The value of a plain scalar without a tag. -/
def plainValue? (text : String) : Option Value :=
  if text.isEmpty || isNull text then some .null
  else
    match boolean? text with
    | some value => some (.boolean value)
    | none =>
      match integerValue? text.toList with
      | some value => value
      | none =>
        let real := if hasLeadingZero text.toList then none else real? text.toList
        match real with
        | some number => some (.real number)
        | none => some (.string text)

/-! ## Nodes -/

/-- The tag of the kind `kind` of the core schema. -/
def coreTag (kind : String) : String :=
  "tag:yaml.org,2002:" ++ kind

/-- The name of a tag that belongs to the application. -/
def localTag? (tag : Option String) : Option String :=
  match tag.map String.toList with
  | some ('!' :: rest) => some (if rest.isEmpty then "!" else String.ofList rest)
  | _ => none

/-- The value of a scalar. -/
def scalarValue? (tag : Option String) (style : Style) (text : String) : Option Value :=
  match localTag? tag with
  | some name =>
    ((if style == .plain then plainValue? text else some (.string text))).map (.tagged name)
  | none =>
    match tag with
    | none => if style == .plain then plainValue? text else some (.string text)
    | some tag =>
      if tag == coreTag "bool" then (boolean? text).map .boolean
      else if tag == coreTag "int" then (integerValue? text.toList).join
      else if tag == coreTag "float" then (real? text.toList).map .real
      else if tag == coreTag "null" then if isNull text then some .null else none
      else some (.string text)

/-- The value with the local tag of a node. -/
def withTag (tag : Option String) (value : Value) : Value :=
  match localTag? tag with
  | some name => .tagged name value
  | none => value

/-- Whether a key stands twice in a mapping. -/
def hasRepeatedKey : List (Value × Value) → Bool
  | [] => false
  | pair :: rest => rest.any (·.1 == pair.1) || hasRepeatedKey rest

mutual

/-- The value of a node.  A mapping in which a key stands twice has none. -/
def Node.value? : Node → Option Value
  | .scalar tag style text => scalarValue? tag style text
  | .sequence tag items => (Node.values? items).map fun values => withTag tag (.sequence values)
  | .mapping tag pairs =>
    match Node.pairValues? pairs with
    | some values => if hasRepeatedKey values then none else some (withTag tag (.mapping values))
    | none => none

def Node.values? : List Node → Option (List Value)
  | [] => some []
  | node :: nodes =>
    match node.value?, Node.values? nodes with
    | some value, some values => some (value :: values)
    | _, _ => none

def Node.pairValues? : List (Node × Node) → Option (List (Value × Value))
  | [] => some []
  | (key, node) :: pairs =>
    match key.value?, node.value?, Node.pairValues? pairs with
    | some keyValue, some value, some values => some ((keyValue, value) :: values)
    | _, _, _ => none

end

/-! ## Readers -/

/-- Reads a node that may be null.  The outer option is failure, the inner one absence. -/
def Node.optional? {α : Type} (read : Node → Option α) (node : Node) : Option (Option α) :=
  match node with
  | .scalar tag .plain text =>
    if tag == some (coreTag "null") then if isNull text then some none else none
    else if tag.isNone && (text.isEmpty || isNull text) then some none
    else (read node).map some
  | _ => (read node).map some

/-- Reads the text of a scalar. -/
def Node.text? : Node → Option String
  | .scalar _ _ text => some text
  | _ => none

/-- Reads a boolean. -/
def Node.boolean? : Node → Option Bool
  | .scalar tag style text =>
    let reads := style == .plain || (style == .literal && tag == some (coreTag "bool"))
    if reads then Yaml.boolean? text else none
  | _ => none

/-- Whether the node is a plain scalar without text, which stands for a collection without items. -/
def Node.isVoid : Node → Bool
  | .scalar _ .plain text => text.isEmpty
  | _ => false

/-- Reads the items of a sequence. -/
def Node.items? (node : Node) : Option (List Node) :=
  match node with
  | .sequence _ items => some items
  | _ => if node.isVoid then some [] else none

/-- Reads the pairs of a mapping. -/
def Node.pairs? (node : Node) : Option (List (Node × Node)) :=
  match node with
  | .mapping _ pairs => some pairs
  | _ => if node.isVoid then some [] else none

/-- Reads the fields of a record: the pairs of a mapping whose keys are scalars, are all among
`names`, and stand there once. -/
def Node.fields? (names : List String) (node : Node) : Option (List (String × Node)) := do
  let pairs ← node.pairs?
  let fields ← pairs.mapM fun (key, value) => key.text?.map (·, value)
  let keys := fields.map (·.1)
  if keys.all names.contains && keys.eraseDups.length == keys.length then some fields else none

/-- The field with the given name. -/
def field? (fields : List (String × Node)) (name : String) : Option Node :=
  (fields.find? (·.1 == name)).map (·.2)

/-- Reads a field that may be missing or null. -/
def optionalField? {α : Type} (fields : List (String × Node)) (name : String)
    (read : Node → Option α) : Option (Option α) :=
  match field? fields name with
  | none => some none
  | some node => node.optional? read

end Lineage.Yaml
