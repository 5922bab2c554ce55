import Lineage.Template.Brackets
import Lineage.Template.Node

/-!
# The variables that an expression reads

Expressions are not evaluated.  An expression is only asked which names it reads, how each read is
guarded, and whether it calls `super()`.

A read is a word that is no keyword, no built-in name, no attribute, filter, test or argument name,
and not bound around the expression.  A read is guarded by what follows it (`or`, or a `default`
filter), by an inline condition around it, or by the tag in which the expression stands.
-/

namespace Lineage.Template

open Lineage.Text

/-- Words of the expression language and of the tags, which are never variables. -/
def keywords : List String :=
  ["and", "or", "not", "in", "is", "if", "else", "true", "false", "none", "True", "False", "None",
    "recursive", "as", "import", "with", "without", "context", "ignore", "missing"]

/-- Names that are always defined. -/
def builtins : List String :=
  ["loop", "super", "self", "caller", "varargs", "kwargs", "range", "dict", "lipsum", "cycler",
    "joiner", "namespace"]

/-- Filters that replace an undefined input. -/
def defaultFilters : List String :=
  ["default", "d"]

/-- A part of an expression: the text that positions refer to, and the tokens of the part. -/
structure Expression where
  source : List Char
  tokens : List Token
deriving DecidableEq, Repr

/-- The expression that a text is: its tokens, if they are in order and their brackets pair up. -/
def Expression.ofText (source : List Char) : Except Cause Expression := do
  let tokens ← Token.all 0 source
  pairBrackets [] tokens
  return ⟨source, tokens⟩

/-- The part of an expression that has the given tokens. -/
def Expression.part (expression : Expression) (tokens : List Token) : Expression :=
  ⟨expression.source, tokens⟩

/-! ## Fallbacks -/

/-- The text from the first token to the position `stop`.  A string literal alone is described by
what stands between its quotes. -/
def describe (source : List Char) (first : Token) (stop : Nat) : String :=
  match first.lexeme with
  | .literal _ inner =>
    if first.stop = stop then String.ofList inner else slice
  | _ => slice
where
  slice : String :=
    String.ofList (trim ((source.drop first.start).take (stop - first.start)))

/-- The tokens behind the attributes, subscripts and calls at the start of the list. -/
def afterSuffixes : List Token → List Token
  | [] => []
  | token :: rest =>
    if token.isSign "." then
      match rest with
      | [] => [token]
      | name :: more => if name.word?.isSome then afterSuffixes more else token :: rest
    else if token.isSign "(" || token.isSign "[" then afterSuffixes (afterGroup (token :: rest))
    else token :: rest
termination_by tokens => tokens.length
decreasing_by
  · simp only [List.length_cons]
    omega
  · exact afterGroup_length_lt token rest

/-- Whether the list begins with a round or a square bracket. -/
def beginsWithCall (tokens : List Token) : Bool :=
  tokens.head?.any fun token => token.isSign "(" || token.isSign "["

/-- The description of the operand behind an `or`: its first token, with a call or a subscript that
follows directly. -/
def operandDescription? (source : List Char) : List Token → Option String
  | [] => none
  | operand :: rest =>
    let stop :=
      if beginsWithCall rest then ((group rest).getLast?.getD operand).stop else operand.stop
    some (describe source operand stop)

/-- The description of the first argument in a group, empty if there is none. -/
def argumentDescription (source : List Char) (arguments : List Token) : String :=
  match (commaParts arguments).head?.getD [] with
  | [] => ""
  | first :: rest => describe source first ((first :: rest).getLast?.getD first).stop

/-- The description of the first default filter in the chain of filters at the start of the list. -/
def filterDescription? (source : List Char) : List Token → Option String
  | bar :: name :: rest =>
    match bar.isSign "|", name.word? with
    | true, some filter =>
      let called := rest.head?.any (·.isSign "(")
      if defaultFilters.contains filter then
        some (if called then argumentDescription source (group rest).tail.dropLast else "")
      else
        filterDescription? source (if called then afterGroup rest else rest)
    | _, _ => none
  | _ => none
termination_by tokens => tokens.length
decreasing_by
  split
  · have : (afterGroup rest).length ≤ rest.length := by simp [afterGroup]
    simp only [List.length_cons]
    omega
  · simp only [List.length_cons]
    omega

/-- The description of the fallback that protects a read, given the tokens behind its name. -/
def fallback? (source : List Char) (after : List Token) : Option String :=
  match afterSuffixes after with
  | [] => none
  | token :: rest =>
    if token.isWord "or" then operandDescription? source rest
    else filterDescription? source (token :: rest)

/-! ## Inline conditions -/

/-- An inline condition `VALUE if TEST else OTHER`, by positions in its token list. -/
structure InlineCondition where
  /-- Where the value begins. -/
  valueStart : Nat
  /-- Where the word `if` stands. -/
  position : Nat
  /-- Where the test ends. -/
  testEnd : Nat
  /-- The words in the test. -/
  tested : List String
deriving DecidableEq, Repr

/-- The length of the test at the start of the list, which begins inside `depth` brackets of the
test.  The test ends at a comma, an `else` or a closing bracket that is not its own. -/
def testLength (depth : Nat) : List Token → Nat
  | [] => 0
  | token :: rest =>
    if depth == 0 && (token.closes?.isSome || token.isSign "," || token.isWord "else") then 0
    else testLength (token.depthAfter depth) rest + 1

/-- The length of the value at the end of a list, which is given in reverse.  The value begins after
a comma, an `else` or an opening bracket that it does not close. -/
def valueLength (depth : Nat) : List Token → Nat
  | [] => 0
  | token :: rest =>
    if token.closes?.isSome then valueLength (depth + 1) rest + 1
    else if token.opens?.isSome then if depth == 0 then 0 else valueLength (depth - 1) rest + 1
    else if depth == 0 && (token.isSign "," || token.isWord "else") then 0
    else valueLength depth rest + 1

/-- The inline conditions of a list that stands behind the tokens `before`, given in reverse. -/
def InlineCondition.all (before : List Token) : List Token → List InlineCondition
  | [] => []
  | token :: rest =>
    let later := InlineCondition.all (token :: before) rest
    if token.isWord "if" && !before.isEmpty then
      let position := before.length
      let length := testLength 0 rest
      ⟨position - valueLength 0 before, position, position + 1 + length,
        ((rest.take length).filterMap Token.word?).filter (!keywords.contains ·)⟩ :: later
    else later

/-- Whether the condition guards the word `name` at `position`: every word of the test, and a word
of the value that the test contains too. -/
def InlineCondition.guards (condition : InlineCondition) (position : Nat) (name : String) : Bool :=
  (condition.position < position && position < condition.testEnd) ||
    (condition.valueStart ≤ position && position < condition.position &&
      condition.tested.contains name)

/-! ## Reads -/

/-- The tag or output in which an expression stands. -/
inductive Context where
  | plain
  /-- The test of an `if`, an `elif` or the filter of a loop: every read in it is conditional. -/
  | test
  /-- The argument of a `filter` tag: its first word names a filter. -/
  | filter
deriving DecidableEq, Repr

/-- A name that an expression reads, and how the expression guards it. -/
structure Occurrence where
  name : String
  guard : Guard
deriving DecidableEq, Repr

/-- Whether the word behind the tokens `before`, given in reverse, names a test. -/
def namesTest : List Token → Bool
  | [] => false
  | [last] => last.isWord "is"
  | last :: previous :: _ => last.isWord "is" || (last.isWord "not" && previous.isWord "is")

/-- Whether the word `name` between the tokens `before`, given in reverse, and `after` is a call of
`super`. -/
def callsSuper (name : String) (after : List Token) : Bool :=
  name == "super" && after.head?.any (·.isSign "(")

/-- Whether the word `name` between the tokens `before`, given in reverse, and `after` reads a
variable, where `bound` are the names that are bound around the expression. -/
def isRead (context : Context) (bound : List String) (before : List Token) (name : String)
    (after : List Token) : Bool :=
  !(keywords.contains name || callsSuper name after || (context == .filter && before.isEmpty) ||
    before.head?.any (fun token => token.isSign "." || token.isSign "|") || namesTest before ||
    after.head?.any (·.isSign "=") || builtins.contains name || bound.contains name)

/-- The reads in the tokens that stand behind `before`, given in reverse. -/
def occurrencesFrom (source : List Char) (context : Context) (bound : List String)
    (conditions : List InlineCondition) (before : List Token) : List Token → List Occurrence
  | [] => []
  | token :: after =>
    let later := occurrencesFrom source context bound conditions (token :: before) after
    match token.word? with
    | none => later
    | some name =>
      if isRead context bound before name after then
        let guard : Guard :=
          match fallback? source after with
          | some description => .fallback description
          | none =>
            if context == .test || conditions.any (·.guards before.length name) then .conditional
            else .bare
        ⟨name, guard⟩ :: later
      else later

/-- The names that an expression reads, in source order and with repeats, when the names `bound`
are bound around it. -/
def Expression.occurrences (expression : Expression) (context : Context) (bound : List String) :
    List Occurrence :=
  occurrencesFrom expression.source context bound (InlineCondition.all [] expression.tokens) []
    expression.tokens

/-- Whether a token list calls `super()`. -/
def anySuperCall : List Token → Bool
  | [] => false
  | token :: after =>
    token.word?.any (fun name => callsSuper name after) || anySuperCall after

/-- Whether an expression calls `super()`. -/
def Expression.callsSuper (expression : Expression) : Bool :=
  anySuperCall expression.tokens

end Lineage.Template
