import Lineage.Text.CaseFolding
import Lineage.Text.Category
import Lineage.Text.Property
import Lineage.Text.Script

/-!
# Character classes

The classes of characters that a regular expression can name: spans of code points, Unicode
properties, categories and scripts, and what can be built from them by set operations and by closing
under simple case folding.
-/

namespace Lineage.Regex

open Lineage.Text

/-- A set of code points. -/
inductive CharClass where
  | span (first last : Nat)
  | points (set : CodePointSet)
  /-- The code points of one of the general categories. -/
  | category (names : List String)
  /-- The code points of the script at a position of `scriptNames`. -/
  | script (index : Nat)
  | complement (inner : CharClass)
  | union (left right : CharClass)
  | intersection (left right : CharClass)
  /-- The code points with a case variant in the class. -/
  | variants (inner : CharClass)

namespace CharClass

/-- Membership of a code point. -/
def containsPoint : CharClass → Nat → Bool
  | .span first last, n => first ≤ n && n ≤ last
  | .points set, n => set.containsPoint n
  | .category names, n => names.contains (generalCategory n)
  | .script index, n => scriptIndex n == index
  | .complement inner, n => !inner.containsPoint n
  | .union left right, n => left.containsPoint n || right.containsPoint n
  | .intersection left right, n => left.containsPoint n && right.containsPoint n
  | .variants inner, n => (caseVariants n).any fun m => inner.containsPoint m

/-- Membership of a character. -/
def contains (set : CharClass) (c : Char) : Bool :=
  set.containsPoint c.toNat

/-- The class of one character. -/
def single (c : Char) : CharClass :=
  .span c.toNat c.toNat

/-- The class without a member. -/
def nothing : CharClass :=
  .span 1 0

/-- The members of any of the classes. -/
def unionAll : List CharClass → CharClass
  | [] => nothing
  | [set] => set
  | set :: sets => .union set (unionAll sets)

/-- The spans between the characters of the list, taken in pairs. -/
def spans : List Char → CharClass
  | first :: last :: rest => .union (.span first.toNat last.toNat) (spans rest)
  | _ => nothing

/-- The members of the first class that the second lacks. -/
def difference (left right : CharClass) : CharClass :=
  .intersection left (.complement right)

/-- The members of exactly one of the two classes. -/
def symmetricDifference (left right : CharClass) : CharClass :=
  .union (difference left right) (difference right left)

/-- The class, or its complement. -/
def negateIf (negated : Bool) (set : CharClass) : CharClass :=
  if negated then .complement set else set

/-- The class, or its closure under case folding. -/
def variantsIf (folded : Bool) (set : CharClass) : CharClass :=
  if folded then .variants set else set

/-! ## Named classes -/

/-- The blanks: the code points with the Unicode property `White_Space`. -/
def blank : CharClass :=
  .points ⟨[0x9, 0xE, 0x20, 0x21, 0x85, 0x86, 0xA0, 0xA1, 0x1680, 0x1681, 0x2000, 0x200B, 0x2028,
    0x202A, 0x202F, 0x2030, 0x205F, 0x2060, 0x3000, 0x3001]⟩

/-- Every code point. -/
def everything : CharClass :=
  .span 0 0x10FFFF

/-- The classes of ASCII characters that stand between brackets and colons. -/
def ascii? : String → Option CharClass
  | "alnum" => some (spans ['0', '9', 'A', 'Z', 'a', 'z'])
  | "alpha" => some (spans ['A', 'Z', 'a', 'z'])
  | "ascii" => some (.span 0 0x7F)
  | "blank" => some (spans ['\t', '\t', ' ', ' '])
  | "cntrl" => some (.union (.span 0 0x1F) (.span 0x7F 0x7F))
  | "digit" => some (spans ['0', '9'])
  | "graph" => some (spans ['!', '~'])
  | "lower" => some (spans ['a', 'z'])
  | "print" => some (spans [' ', '~'])
  | "punct" => some (spans ['!', '/', ':', '@', '[', '\x60', '\x7b', '~'])
  | "space" => some (spans ['\t', '\r', ' ', ' '])
  | "upper" => some (spans ['A', 'Z'])
  | "word" => some (spans ['0', '9', 'A', 'Z', '_', '_', 'a', 'z'])
  | "xdigit" => some (spans ['0', '9', 'A', 'F', 'a', 'f'])
  | _ => none

/-- The class of the letters `d`, `s` and `w` behind a backslash, for all of Unicode or for ASCII
alone. -/
def shorthand? (unicode : Bool) (letter : Char) : Option CharClass :=
  match letter with
  | 'd' => if unicode then some (.category ["Nd"]) else ascii? "digit"
  | 's' => if unicode then some blank else ascii? "space"
  | 'w' => if unicode then some (.points wordCharacter) else ascii? "word"
  | _ => none

/-- A name of a property, category or script without blanks, underscores, hyphens and a leading
`is`, in lower case. -/
def normalizeName (name : String) : String :=
  let letters := (name.toList.filter fun c => !(c == ' ' || c == '_' || c == '-')).map Char.toLower
  match letters with
  | 'i' :: 's' :: rest => if rest = ['c'] then "isc" else String.ofList rest
  | _ => String.ofList letters

/-- The general categories with their normalized names. -/
def categoryGroups : List (List String × List String) :=
  [(["l", "letter"], ["Lu", "Ll", "Lt", "Lm", "Lo"]),
    (["lc", "casedletter"], ["Lu", "Ll", "Lt"]),
    (["lu", "uppercaseletter"], ["Lu"]),
    (["ll", "lowercaseletter"], ["Ll"]),
    (["lt", "titlecaseletter"], ["Lt"]),
    (["lm", "modifierletter"], ["Lm"]),
    (["lo", "otherletter"], ["Lo"]),
    (["m", "mark", "combiningmark"], ["Mn", "Mc", "Me"]),
    (["mn", "nonspacingmark"], ["Mn"]),
    (["mc", "spacingmark"], ["Mc"]),
    (["me", "enclosingmark"], ["Me"]),
    (["n", "number"], ["Nd", "Nl", "No"]),
    (["nd", "decimalnumber", "digit"], ["Nd"]),
    (["nl", "letternumber"], ["Nl"]),
    (["no", "othernumber"], ["No"]),
    (["p", "punctuation", "punct"], ["Pc", "Pd", "Ps", "Pe", "Pi", "Pf", "Po"]),
    (["pc", "connectorpunctuation"], ["Pc"]),
    (["pd", "dashpunctuation"], ["Pd"]),
    (["ps", "openpunctuation"], ["Ps"]),
    (["pe", "closepunctuation"], ["Pe"]),
    (["pi", "initialpunctuation"], ["Pi"]),
    (["pf", "finalpunctuation"], ["Pf"]),
    (["po", "otherpunctuation"], ["Po"]),
    (["s", "symbol"], ["Sm", "Sc", "Sk", "So"]),
    (["sm", "mathsymbol"], ["Sm"]),
    (["sc", "currencysymbol"], ["Sc"]),
    (["sk", "modifiersymbol"], ["Sk"]),
    (["so", "othersymbol"], ["So"]),
    (["z", "separator"], ["Zs", "Zl", "Zp"]),
    (["zs", "spaceseparator"], ["Zs"]),
    (["zl", "lineseparator"], ["Zl"]),
    (["zp", "paragraphseparator"], ["Zp"]),
    (["c", "other"], ["Cc", "Cf", "Cs", "Co", "Cn"]),
    (["cc", "control", "cntrl"], ["Cc"]),
    (["cf", "format"], ["Cf"]),
    (["cs", "surrogate"], ["Cs"]),
    (["co", "privateuse"], ["Co"]),
    (["cn", "unassigned"], ["Cn"])]

/-- The general category with a normalized name. -/
def category? (name : String) : Option CharClass :=
  match name with
  | "any" => some everything
  | "assigned" => some (.complement (.category ["Cn"]))
  | "ascii" => some (.span 0 0x7F)
  | _ =>
    (categoryGroups.find? fun group => group.1.contains name).map fun group => .category group.2

/-- The script with a normalized name. -/
def script? (name : String) : Option CharClass :=
  (scriptNames.findIdx? fun (long, short) =>
    normalizeName long == name || normalizeName short == name).map .script

/-- The property with a normalized name. -/
def property? : String → Option CharClass
  | "alphabetic" | "alpha" => some (.points alphabetic)
  | "lowercase" | "lower" => some (.points lowercase)
  | "uppercase" | "upper" => some (.points uppercase)
  | "whitespace" | "wspace" | "space" => some blank
  | "emoji" => some (.points emoji)
  | "ideographic" | "ideo" => some (.points ideographic)
  | "math" => some (.points mathematical)
  | "dash" => some (.points dash)
  | "hexdigit" | "hex" => some (.points hexDigit)
  | "asciihexdigit" | "ahex" => ascii? "xdigit"
  | _ => none

/-- The class with the given name: a property, a general category or a script. -/
def named? (name : String) : Option CharClass :=
  let normal := normalizeName name
  (property? normal).orElse fun _ => (category? normal).orElse fun _ => script? normal

/-- The class of the code points whose property `property` has the value `value`. -/
def valued? (property value : String) : Option CharClass :=
  match normalizeName property with
  | "gc" | "generalcategory" => category? (normalizeName value)
  | "sc" | "script" | "scx" | "scriptextensions" => script? (normalizeName value)
  | _ => none

/-- The number of spans of which the class is written, an estimate of what it costs to keep it. -/
def size : CharClass → Nat
  | .span _ _ => 1
  | .points set => set.changes.length / 2
  | .category names => 200 * names.length
  | .script _ => 20
  | .complement inner => inner.size + 1
  | .union left right => left.size + right.size
  | .intersection left right => max left.size right.size
  | .variants inner => 2 * inner.size

end CharClass

end Lineage.Regex
