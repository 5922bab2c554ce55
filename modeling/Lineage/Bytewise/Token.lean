import Lineage.Bytewise.Checked
import Lineage.Template.Token

/-!
# Tokens by positions

An expression is cut into tokens by a position that moves over its bytes: by one byte, by two over a
backslash and what it escapes, or by the length of a word, a number or an operator.  A token has its
class, the positions of its first byte and behind its last one, and the slice of the expression
between them.
-/

namespace Lineage.Bytewise

open Lineage.Text Lineage.Template

/-- The classes of tokens. -/
inductive Kind where
  | word
  | literal
  | number
  | operator
deriving DecidableEq, Repr

/-- A token with its text and the positions between which it stands. -/
structure PlacedToken where
  kind : Kind
  text : List Char
  start : Nat
  stop : Nat
deriving DecidableEq, Repr

namespace PlacedToken

/-- Whether the token is the operator `sign`. -/
def isSign (token : PlacedToken) (sign : String) : Bool :=
  token.kind == .operator && token.text == sign.toList

/-- Whether the token is the word `name`. -/
def isWord (token : PlacedToken) (name : String) : Bool :=
  token.kind == .word && token.text == name.toList

/-- The word that the token is, if it is one. -/
def word? (token : PlacedToken) : Option String :=
  if token.kind = .word then some (String.ofList token.text) else none

/-- What stands between the marks of a string literal; the text of any other token. -/
def unquoted (token : PlacedToken) : Option (List Char) :=
  if token.kind = .literal ∧ 2 ≤ byteLength token.text then do
    let stop ← minus? (byteLength token.text) 1
    slice? token.text 1 stop
  else return token.text

end PlacedToken

/-- Whether a byte separates tokens. -/
def separates (byte : UInt8) : Bool :=
  byte == ' '.toUInt8 || byte == '\t'.toUInt8 || byte == '\n'.toUInt8 ||
    byte == '\x0c'.toUInt8 || byte == '\r'.toUInt8

/-- Whether a byte is a digit. -/
def isDigitByte (byte : UInt8) : Bool :=
  '0'.toUInt8 ≤ byte && byte ≤ '9'.toUInt8

/-- The position, counted from the start of the text, of its first character that satisfies `p`. -/
def offset? (p : Char → Bool) : List Char → Option Nat
  | [] => none
  | c :: rest => if p c then some 0 else (offset? p rest).map (c.utf8Size + ·)

/-- The position behind the digits, underscores and points that begin at a position. -/
def digitsEnd (source : List UInt8) (position : Nat) : Option Nat :=
  if position < source.length then do
    let byte ← source[position]?
    if isDigitByte byte || byte == '_'.toUInt8 || byte == '.'.toUInt8 then
      if byte == '.'.toUInt8 && !(source[position + 1]?.any isDigitByte) then return position
      else digitsEnd source (position + 1)
    else return position
  else return position
termination_by source.length - position

/-- The length of the exponent with which the bytes begin, if they begin with one. -/
def exponentLength (rest : List UInt8) : Option Nat :=
  if rest.head?.any fun byte => byte == 'e'.toUInt8 || byte == 'E'.toUInt8 then do
    let sign :=
      if rest[1]?.any fun byte => byte == '+'.toUInt8 || byte == '-'.toUInt8 then 1 else 0
    let behind ← part? rest (1 + sign) rest.length
    let digits := behind.takeWhile fun byte => isDigitByte byte || byte == '_'.toUInt8
    return if rest[1 + sign]?.any isDigitByte then 1 + sign + digits.length else 0
  else return 0

/-- The position behind the closing mark of a literal of which an inner part begins at a position,
if there is such a mark. -/
def literalEnd (source : List UInt8) (mark : UInt8) (position : Nat) : Option (Option Nat) :=
  if position < source.length then do
    let byte ← source[position]?
    if byte = '\\'.toUInt8 then literalEnd source mark (position + 2)
    else if byte = mark then return some (position + 1)
    else literalEnd source mark (position + 1)
  else return none
termination_by source.length - position

/-- The class of the token that begins at a position with the given byte, and the position behind
it. -/
def lexemeAt (source : List Char) (byte : UInt8) (start : Nat) :
    Checked Template.Cause (Kind × Nat) := do
  let rest ← slice? source start (byteLength source)
  let first := rest.head?.getD '?'
  if startsWord first then
    let length ← minus? (byteLength source) start
    return (.word, start + (offset? (!continuesWord ·) rest).getD length)
  else if isDigitByte byte then
    let stop ← digitsEnd (bytes source) start
    let behind ← part? (bytes source) stop (bytes source).length
    let exponent ← exponentLength behind
    return (.number, stop + exponent)
  else if byte = '"'.toUInt8 ∨ byte = '\''.toUInt8 then
    match ← literalEnd (bytes source) byte (start + 1) with
    | none => throw .unterminatedString
    | some stop => return (.literal, stop)
  else
    match pairOperators.find? fun sign => sign.toList.isPrefixOf rest with
    | some sign => return (.operator, start + byteLength sign.toList)
    | none =>
      if (bytes singleOperators).contains byte then return (.operator, start + 1)
      else throw (.unexpectedCharacter first)

/-- The tokens of an expression from a position on. -/
def tokensFrom (source : List Char) (position : Nat) :
    Checked Template.Cause (List PlacedToken) := do
  if position < byteLength source then
    let byte ← ((bytes source)[position]? : Option UInt8)
    if separates byte then tokensFrom source (position + 1)
    else
      let (kind, next) ← lexemeAt source byte position
      let stop := min next (byteLength source)
      let text ← slice? source position stop
      let ⟨_⟩ ← isBelow? position next
      let others ← tokensFrom source next
      return ⟨kind, text, position, stop⟩ :: others
  else return []
termination_by byteLength source - position

end Lineage.Bytewise
