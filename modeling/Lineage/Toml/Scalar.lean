import Lineage.Text.Digit
import Lineage.Text.Split

/-!
# Scalars of a TOML document

Strings come in four forms, with and without escapes, on one line and on several.  All other scalars
are words without quotes, told apart by their form.  Of a number with a fraction or an exponent, and
of a moment in time, only the form is looked at.
-/

namespace Lineage.Toml

open Lineage.Text

/-! ## Characters -/

/-- A blank within a line. -/
def isGap (c : Char) : Bool :=
  c == ' ' || c == '\t'

/-- A control character other than a tab. -/
def isControl (c : Char) : Bool :=
  (c.toNat < 32 && c != '\t') || c.toNat == 127

/-- The text without the blanks at its start. -/
def skipGaps (text : List Char) : List Char :=
  text.dropWhile isGap

/-- The text behind the line break at its start. -/
def afterBreak? : List Char → Option (List Char)
  | '\n' :: rest => some rest
  | '\r' :: '\n' :: rest => some rest
  | _ => none

/-- The text without the blanks and line breaks at its start. -/
def skipBlankLines : List Char → List Char
  | '\r' :: '\n' :: rest => skipBlankLines rest
  | c :: rest => if isGap c || c == '\n' then skipBlankLines rest else c :: rest
  | [] => []

/-! ## Strings -/

/-- A character in front of what has been read. -/
def before (c : Char) (read : Option (List Char × List Char)) : Option (List Char × List Char) :=
  read.map fun (text, rest) => (c :: text, rest)

/-- The character that a letter behind a backslash stands for. -/
def named? : Char → Option Char
  | 'b' => some '\x08'
  | 't' => some '\t'
  | 'n' => some '\n'
  | 'f' => some '\x0c'
  | 'r' => some '\r'
  | 'e' => some '\x1b'
  | '"' => some '"'
  | '\\' => some '\\'
  | _ => none

/-- The number of digits behind a letter that announces the code of a character. -/
def codeLength? : Char → Option Nat
  | 'x' => some 2
  | 'u' => some 4
  | 'U' => some 8
  | _ => none

/-- The escaped character behind a backslash, and the text after it. -/
def escape? : List Char → Option (Char × List Char)
  | [] => none
  | c :: rest =>
    match codeLength? c with
    | some count =>
      if rest.length < count then none
      else (hexChar? (rest.take count)).map (·, rest.drop count)
    | none => (named? c).map (·, rest)

/-- The text up to the closing quote, with escapes, and the text after the quote.  The fuel bounds
the number of characters. -/
def basic? : Nat → List Char → Option (List Char × List Char)
  | 0, _ => none
  | _, [] => none
  | fuel + 1, c :: rest =>
    if c == '"' then some ([], rest)
    else if c == '\\' then
      match escape? rest with
      | some (escaped, after) => before escaped (basic? fuel after)
      | none => none
    else if isControl c then none
    else before c (basic? fuel rest)

/-- The text up to the closing quote, without escapes, and the text after the quote. -/
def literal? : List Char → Option (List Char × List Char)
  | [] => none
  | c :: rest =>
    if c == '\'' then some ([], rest)
    else if isControl c then none
    else before c (literal? rest)

/-- The end of a string on several lines: up to two quotes that belong to it, and the text behind
the three that close it. -/
def closing? (quote : Char) (text : List Char) : Option (List Char × List Char) :=
  let quotes := (text.takeWhile (· == quote)).length
  if quotes < 3 then none
  else some (List.replicate (min quotes 5 - 3) quote, text.drop (min quotes 5))

/-- The text behind a line break that a backslash hides, together with the blanks after it. -/
def afterHiddenBreak? (text : List Char) : Option (List Char) :=
  (afterBreak? (skipGaps text)).map skipBlankLines

/-- A string on several lines behind its opening quotes.  The fuel bounds the number of
characters. -/
def lines? (quote : Char) (escapes : Bool) : Nat → List Char → Option (List Char × List Char)
  | 0, _ => none
  | _, [] => none
  | fuel + 1, c :: rest =>
    match closing? quote (c :: rest) with
    | some closed => some closed
    | none =>
      if escapes && c == '\\' then
        match afterHiddenBreak? rest with
        | some after => lines? quote escapes fuel after
        | none =>
          match escape? rest with
          | some (escaped, after) => before escaped (lines? quote escapes fuel after)
          | none => none
      else if (afterBreak? (c :: rest)).isNone && isControl c then none
      else before c (lines? quote escapes fuel rest)

/-- The text without the line break at its start. -/
def withoutFirstBreak (text : List Char) : List Char :=
  (afterBreak? text).getD text

/-- The string at the start of the text, and the text after it. -/
def string? (text : List Char) : Option (List Char × List Char) :=
  match text with
  | '"' :: '"' :: '"' :: rest => lines? '"' true (rest.length + 1) (withoutFirstBreak rest)
  | '\'' :: '\'' :: '\'' :: rest => lines? '\'' false (rest.length + 1) (withoutFirstBreak rest)
  | '"' :: rest => basic? rest.length rest
  | '\'' :: rest => literal? rest
  | _ => none

/-! ## Numbers -/

/-- A character of a scalar without quotes. -/
def isWordChar (c : Char) : Bool :=
  c.isAlphanum || c == '+' || c == '-' || c == '_' || c == '.' || c == ':'

/-- The text without a sign at its start, and whether that is a minus. -/
def unsigned : List Char → Bool × List Char
  | '-' :: rest => (true, rest)
  | '+' :: rest => (false, rest)
  | text => (false, text)

/-- The number that the digits of a base write.  A low line may stand between two digits. -/
def separatedDigits? (base : Nat) (text : List Char) : Option Nat :=
  let parts := splitAt '_' text
  if parts.any List.isEmpty then none else digits? base parts.flatten

/-- The number that decimal digits without a superfluous zero write. -/
def natural? (text : List Char) : Option Nat :=
  if text.head? == some '0' && text.length > 1 then none else separatedDigits? 10 text

/-- The integer that a word writes, in decimal with a sign or with the mark of another base. -/
def integer? (word : List Char) : Option Int :=
  match word with
  | '0' :: 'x' :: rest => (separatedDigits? 16 rest).map fun n => n
  | '0' :: 'o' :: rest => (separatedDigits? 8 rest).map fun n => n
  | '0' :: 'b' :: rest => (separatedDigits? 2 rest).map fun n => n
  | _ =>
    let (negative, rest) := unsigned word
    (natural? rest).map fun n => if negative then -n else n

/-- Whether the text is an exponent behind its letter. -/
def isExponent (text : List Char) : Bool :=
  (separatedDigits? 10 (unsigned text).2).isSome

/-- Whether the text is a number with a fraction or without. -/
def isMantissa (text : List Char) : Bool :=
  match splitAt '.' text with
  | [whole] => (natural? whole).isSome
  | [whole, fraction] => (natural? whole).isSome && (separatedDigits? 10 fraction).isSome
  | _ => false

/-- Whether a word is a number with a fraction or an exponent, or one that is not finite. -/
def isReal (word : List Char) : Bool :=
  let text := (unsigned word).2
  let (mantissa, behind) := text.span fun c => c != 'e' && c != 'E'
  if text == "inf".toList || text == "nan".toList then true
  else
    match behind with
    | [] => isMantissa mantissa && mantissa.contains '.'
    | _ :: exponent => isMantissa mantissa && isExponent exponent

/-! ## Moments -/

/-- The number that a run of decimal digits of the given length writes. -/
def fixed? (length : Nat) (text : List Char) : Option Nat :=
  if text.length = length && text.all Char.isDigit then digits? 10 text else none

/-- The number of days of a month. -/
def daysOfMonth (year month : Nat) : Nat :=
  if month = 2 then if year % 4 = 0 && (year % 100 != 0 || year % 400 = 0) then 29 else 28
  else if month = 4 || month = 6 || month = 9 || month = 11 then 30
  else 31

/-- Whether the text is a date. -/
def isDate (text : List Char) : Bool :=
  match splitAt '-' text with
  | [year, month, day] =>
    match fixed? 4 year, fixed? 2 month, fixed? 2 day with
    | some year, some month, some day =>
      1 ≤ month && month ≤ 12 && 1 ≤ day && day ≤ daysOfMonth year month
    | _, _, _ => false
  | _ => false

/-- Whether the text is a number of two digits below the limit. -/
def isBelow (limit : Nat) (text : List Char) : Bool :=
  (fixed? 2 text).any (· < limit)

/-- Whether the text is the seconds of a time. -/
def isSeconds (text : List Char) : Bool :=
  match splitAt '.' text with
  | [whole] => isBelow 61 whole
  | [whole, fraction] => isBelow 61 whole && !fraction.isEmpty && fraction.all Char.isDigit
  | _ => false

/-- Whether the text is a time of the day. -/
def isTime (text : List Char) : Bool :=
  match splitAt ':' text with
  | [hours, minutes] => isBelow 24 hours && isBelow 60 minutes
  | [hours, minutes, seconds] => isBelow 24 hours && isBelow 60 minutes && isSeconds seconds
  | _ => false

/-- Whether the text is a time of the day with or without the distance from the prime meridian. -/
def isTimeWithZone (text : List Char) : Bool :=
  match text.getLast? with
  | some 'Z' | some 'z' => isTime text.dropLast
  | _ =>
    let (time, zone) := text.span fun c => c != '+' && c != '-'
    match zone with
    | [] => isTime time
    | _ :: distance =>
      match splitAt ':' distance with
      | [hours, minutes] => isTime time && isBelow 24 hours && isBelow 60 minutes
      | _ => false

/-- Whether a word is a moment: a date, a time, or both. -/
def isMoment (word : List Char) : Bool :=
  let behind := word.drop 10
  isDate word || isTime word ||
    (isDate (word.take 10) && (behind.head? == some 'T' || behind.head? == some 't') &&
      isTimeWithZone (behind.drop 1))

end Lineage.Toml
