import Lineage.Template.Fault
import Lineage.Text.Blank
import Lineage.Text.Letter

/-!
# Tokens of an expression

An expression is cut into words, string literals, numbers and operators.  A token knows what it says
and where it starts, counted in characters from the start of the expression.  Between tokens stand
separators only, and every token reaches as far as its class allows: `read_source` says that a
lexeme and the text after it are the text that was read.
-/

namespace Lineage.Template

open Lineage.Text

/-- What a token says. -/
inductive Lexeme where
  | word (name : String)
  /-- A string literal: its quotation mark, and what stands between the two marks. -/
  | literal (mark : Char) (inner : List Char)
  | number (digits : List Char)
  | operator (sign : String)
deriving DecidableEq, Repr

/-- The characters of a lexeme. -/
def Lexeme.source : Lexeme → List Char
  | .word name => name.toList
  | .literal mark inner => mark :: inner ++ [mark]
  | .number digits => digits
  | .operator sign => sign.toList

/-- A lexeme and the position of its first character. -/
structure Token where
  lexeme : Lexeme
  start : Nat
deriving DecidableEq, Repr

/-- The position after the last character of a token. -/
def Token.stop (token : Token) : Nat :=
  token.start + token.lexeme.source.length

/-- Whether the token is the operator `sign`. -/
def Token.isSign (token : Token) (sign : String) : Bool :=
  token.lexeme == .operator sign

/-- Whether the token is the word `name`. -/
def Token.isWord (token : Token) (name : String) : Bool :=
  token.lexeme == .word name

/-- The word that the token is, if it is one. -/
def Token.word? (token : Token) : Option String :=
  match token.lexeme with
  | .word name => some name
  | _ => none

/-! ## Lexemes -/

/-- A character that may begin a word. -/
def startsWord (c : Char) : Bool :=
  isLetter c || c == '_'

/-- A character that may go on with a word. -/
def continuesWord (c : Char) : Bool :=
  isLetterOrNumber c || c == '_'

/-- Whether the number goes on with the character `c` before the text `rest`.  A point belongs to a
number only before a digit. -/
def continuesNumber (c : Char) (rest : List Char) : Bool :=
  c.isDigit || c == '_' || (c == '.' && rest.head?.any Char.isDigit)

/-- The digits at the start of the text, and the text after them. -/
def splitDigits : List Char → List Char × List Char
  | [] => ([], [])
  | c :: rest =>
    if continuesNumber c rest then (c :: (splitDigits rest).1, (splitDigits rest).2)
    else ([], c :: rest)

/-- The digits of an exponent: one digit, then digits and underscores. -/
def splitExponentDigits? : List Char → Option (List Char × List Char)
  | [] => none
  | c :: rest =>
    if c.isDigit then
      some (c :: rest.takeWhile (fun d => d.isDigit || d == '_'),
        rest.dropWhile (fun d => d.isDigit || d == '_'))
    else none

/-- An exponent at the start of the text: its letter, an optional sign, its digits. -/
def splitExponent? : List Char → Option (List Char × List Char)
  | letter :: sign :: rest =>
    if letter == 'e' || letter == 'E' then
      if sign == '+' || sign == '-' then
        (splitExponentDigits? rest).map fun (digits, after) => (letter :: sign :: digits, after)
      else
        (splitExponentDigits? (sign :: rest)).map fun (digits, after) => (letter :: digits, after)
    else none
  | _ => none

/-- The number at the start of the text, and the text after it. -/
def splitNumber (text : List Char) : List Char × List Char :=
  match splitExponent? (splitDigits text).2 with
  | some (exponent, rest) => ((splitDigits text).1 ++ exponent, rest)
  | none => splitDigits text

/-- The inside of a string literal up to its closing mark, and the text after the mark.  A backslash
takes the next character along. -/
def splitLiteral? (mark : Char) : List Char → Option (List Char × List Char)
  | [] => none
  | c :: rest =>
    if c = mark then some ([], rest)
    else if c = '\\' then
      match rest with
      | [] => none
      | d :: rest => (splitLiteral? mark rest).map fun (inner, after) => (c :: d :: inner, after)
    else (splitLiteral? mark rest).map fun (inner, after) => (c :: inner, after)

/-- The operators of two characters. -/
def pairOperators : List String :=
  ["==", "!=", "<=", ">=", "//", "**"]

/-- The characters that are an operator by themselves. -/
def singleOperators : List Char :=
  "()[]\x7b\x7d.,:|~+-*/%<>=!".toList

/-- The operator of two characters at the start of the text. -/
def pairOperator? (c : Char) (rest : List Char) : Option String :=
  match rest with
  | [] => none
  | d :: _ =>
    if pairOperators.contains (String.ofList [c, d]) then some (String.ofList [c, d]) else none

/-- The lexeme that begins with the character `c`, which is no separator, and the text after it. -/
def Lexeme.read (c : Char) (rest : List Char) : Except Cause (Lexeme × List Char) :=
  if startsWord c then
    .ok (.word (String.ofList (c :: rest.takeWhile continuesWord)), rest.dropWhile continuesWord)
  else if c.isDigit then
    .ok (.number (splitNumber (c :: rest)).1, (splitNumber (c :: rest)).2)
  else if c = '"' ∨ c = '\'' then
    match splitLiteral? c rest with
    | some (inner, after) => .ok (.literal c inner, after)
    | none => .error .unterminatedString
  else
    match pairOperator? c rest with
    | some sign => .ok (.operator sign, rest.tail)
    | none =>
      if singleOperators.contains c then .ok (.operator (String.singleton c), rest)
      else .error (.unexpectedCharacter c)

/-! ## A lexeme and the text after it -/

theorem splitDigits_append (text : List Char) :
    (splitDigits text).1 ++ (splitDigits text).2 = text := by
  induction text with
  | nil => rfl
  | cons c rest ih =>
    unfold splitDigits
    split
    · simp [ih]
    · rfl

theorem splitExponentDigits?_append {text digits rest : List Char}
    (h : splitExponentDigits? text = some (digits, rest)) : digits ++ rest = text := by
  unfold splitExponentDigits? at h
  split at h
  · cases h
  · split at h
    · cases h
      simp
    · cases h

theorem splitExponent?_append {text exponent rest : List Char}
    (h : splitExponent? text = some (exponent, rest)) : exponent ++ rest = text := by
  unfold splitExponent? at h
  split at h
  · split at h
    · split at h
      all_goals
        obtain ⟨⟨digits, after⟩, found, h⟩ := Option.map_eq_some_iff.1 h
        cases h
        simp [splitExponentDigits?_append found]
    · cases h
  · cases h

theorem splitNumber_append (text : List Char) :
    (splitNumber text).1 ++ (splitNumber text).2 = text := by
  unfold splitNumber
  split
  · rename_i found
    simp [splitExponent?_append found, splitDigits_append]
  · exact splitDigits_append text

theorem splitLiteral?_append {mark : Char} {text inner rest : List Char}
    (h : splitLiteral? mark text = some (inner, rest)) : inner ++ mark :: rest = text := by
  fun_induction splitLiteral? mark text generalizing inner rest with
  | case1 => cases h
  | case2 => cases h; rfl
  | case3 => cases h
  | case4 d tail _ ih =>
    obtain ⟨⟨inner', after⟩, found, h⟩ := Option.map_eq_some_iff.1 h
    cases h
    simp [ih found]
  | case5 c tail _ _ ih =>
    obtain ⟨⟨inner', after⟩, found, h⟩ := Option.map_eq_some_iff.1 h
    cases h
    simp [ih found]

theorem pairOperator?_append {c : Char} {rest : List Char} {sign : String}
    (h : pairOperator? c rest = some sign) : sign.toList ++ rest.tail = c :: rest := by
  unfold pairOperator? at h
  split at h
  · cases h
  · split at h
    · cases h
      simp
    · cases h

/-- Neither a word nor a number nor a literal begins with the character. -/
structure BeginsOperator (c : Char) : Prop where
  noWord : startsWord c = false
  noDigit : c.isDigit = false
  noQuote : ¬ (c = '"' ∨ c = '\'')

/-- What is read at the character `c` in front of `rest`, with one case for each class of lexemes.
The first class that begins there is read. -/
inductive Lexeme.IsReadAt (c : Char) (rest : List Char) : Lexeme → List Char → Prop
  | word (starts : startsWord c = true) :
      IsReadAt c rest (.word (String.ofList (c :: rest.takeWhile continuesWord)))
        (rest.dropWhile continuesWord)
  | number (noWord : startsWord c = false) (isDigit : c.isDigit = true) :
      IsReadAt c rest (.number (splitNumber (c :: rest)).1) (splitNumber (c :: rest)).2
  | literal {inner after : List Char} (noWord : startsWord c = false)
      (noDigit : c.isDigit = false) (isQuote : c = '"' ∨ c = '\'')
      (found : splitLiteral? c rest = some (inner, after)) :
      IsReadAt c rest (.literal c inner) after
  | pair {sign : String} (begins : BeginsOperator c) (found : pairOperator? c rest = some sign) :
      IsReadAt c rest (.operator sign) rest.tail
  | single (begins : BeginsOperator c) (noPair : pairOperator? c rest = none)
      (isSingle : c ∈ singleOperators) : IsReadAt c rest (.operator (String.singleton c)) rest

theorem read_eq_ok_iff {c : Char} {rest after : List Char} {lexeme : Lexeme} :
    Lexeme.read c rest = .ok (lexeme, after) ↔ Lexeme.IsReadAt c rest lexeme after := by
  constructor
  · intro read
    unfold Lexeme.read at read
    split at read
    · rename_i starts
      cases read
      exact .word starts
    · rename_i noWord
      rw [Bool.not_eq_true] at noWord
      split at read
      · rename_i isDigit
        cases read
        exact .number noWord isDigit
      · rename_i noDigit
        rw [Bool.not_eq_true] at noDigit
        split at read
        · rename_i isQuote
          split at read
          · rename_i found
            cases read
            exact .literal noWord noDigit isQuote found
          · cases read
        · rename_i noQuote
          have begins : BeginsOperator c := ⟨noWord, noDigit, noQuote⟩
          split at read
          · rename_i found
            cases read
            exact .pair begins found
          · rename_i noPair
            split at read
            · rename_i isSingle
              cases read
              exact .single begins noPair (List.contains_iff_mem.mp isSingle)
            · cases read
  · intro isReadAt
    cases isReadAt with
    | word starts => simp [Lexeme.read, starts]
    | number noWord isDigit => simp [Lexeme.read, noWord, isDigit]
    | literal noWord noDigit isQuote found =>
        simp [Lexeme.read, noWord, noDigit, isQuote, found]
    | pair begins found =>
        simp [Lexeme.read, begins.noWord, begins.noDigit, begins.noQuote, found]
    | single begins noPair isSingle =>
        simp [Lexeme.read, begins.noWord, begins.noDigit, begins.noQuote, noPair, isSingle]

/-- A lexeme and the text after it are the text that was read. -/
theorem read_source {c : Char} {text rest : List Char} {lexeme : Lexeme}
    (h : Lexeme.read c text = .ok (lexeme, rest)) : lexeme.source ++ rest = c :: text := by
  cases read_eq_ok_iff.mp h with
  | word _ => simp [Lexeme.source]
  | number _ _ => exact splitNumber_append (c :: text)
  | literal _ _ _ found => simp [Lexeme.source, ← splitLiteral?_append found]
  | pair _ found => exact pairOperator?_append found
  | single _ _ _ => simp [Lexeme.source]

/-- No lexeme is empty. -/
theorem read_length_lt {c : Char} {text rest : List Char} {lexeme : Lexeme}
    (h : Lexeme.read c text = .ok (lexeme, rest)) : rest.length < (c :: text).length := by
  have whole := congrArg List.length (read_source h)
  rw [List.length_append] at whole
  suffices 0 < lexeme.source.length by omega
  cases read_eq_ok_iff.mp h with
  | word _ => simp [Lexeme.source]
  | number _ isDigit =>
      have digits : 0 < (splitDigits (c :: text)).1.length := by
        simp [splitDigits, continuesNumber, isDigit]
      simp only [Lexeme.source, splitNumber]
      split
      · simp only [List.length_append]
        omega
      · exact digits
  | literal _ _ _ _ => simp [Lexeme.source]
  | pair _ found =>
      have length := congrArg List.length (pairOperator?_append found)
      simp only [Lexeme.source, List.length_append, List.length_tail, List.length_cons] at *
      omega
  | single _ _ _ => simp [Lexeme.source]

/-- The tokens of a text whose first character has the position `start`. -/
def Token.all (start : Nat) : List Char → Except Cause (List Token)
  | [] => .ok []
  | c :: rest =>
    if isSeparator c then Token.all (start + 1) rest
    else
      match h : Lexeme.read c rest with
      | .error cause => .error cause
      | .ok (lexeme, after) =>
        have : after.length < (c :: rest).length := read_length_lt h
        (Token.all (start + lexeme.source.length) after).map (⟨lexeme, start⟩ :: ·)
termination_by text => text.length
decreasing_by
  · exact Nat.lt_succ_self _
  · exact this

end Lineage.Template
