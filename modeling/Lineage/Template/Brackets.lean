import Lineage.Template.Token

/-!
# Brackets in a token list

An expression is accepted only if its brackets pair up by kind (`pairBrackets`).  After that the
kinds no longer matter, and groups are found by counting depth: how far a group reaches, where a
list is cut at a separator outside all brackets, and where such a token stands first.

The counting functions are defined on every list.  A closing bracket at depth zero leaves the depth
at zero, and a group that is never closed reaches to the end of the list.
-/

namespace Lineage.Template

/-- The kind of bracket that the token opens, if it opens one. -/
def Token.opens? (token : Token) : Option Bracket :=
  [Bracket.round, .square, .curly].find? fun bracket => token.isSign bracket.opening

/-- The kind of bracket that the token closes, if it closes one. -/
def Token.closes? (token : Token) : Option Bracket :=
  [Bracket.round, .square, .curly].find? fun bracket => token.isSign bracket.closing

/-- The bracket depth behind a token that stands at depth `depth`. -/
def Token.depthAfter (depth : Nat) (token : Token) : Nat :=
  if token.opens?.isSome then depth + 1 else if token.closes?.isSome then depth - 1 else depth

/-- Accepts a token list behind the open brackets `pending`, innermost first, if every bracket that
is closed is the innermost open one and none is left open. -/
def pairBrackets (pending : List Bracket) : List Token → Except Cause Unit
  | [] =>
    match pending with
    | [] => .ok ()
    | bracket :: _ => .error (.unclosedBracket bracket)
  | token :: rest =>
    match token.opens?, token.closes? with
    | some bracket, _ => pairBrackets (bracket :: pending) rest
    | none, some bracket =>
      if pending.head? = some bracket then pairBrackets pending.tail rest
      else .error (.unbalanced bracket)
    | none, none => pairBrackets pending rest

/-- The number of tokens up to the one that closes the group in which the list begins, that one
included.  The list begins inside `depth` brackets. -/
def groupSize (depth : Nat) : List Token → Nat
  | [] => 0
  | token :: rest =>
    if token.closes?.isSome && token.depthAfter depth == 0 then 1
    else groupSize (token.depthAfter depth) rest + 1

/-- The group that the first token of the list opens, with both its brackets. -/
def group (tokens : List Token) : List Token :=
  tokens.take (groupSize 0 tokens)

/-- The tokens behind the group that the first token of the list opens. -/
def afterGroup (tokens : List Token) : List Token :=
  tokens.drop (groupSize 0 tokens)

/-- Cuts a list that begins at bracket depth `depth` at its separators outside brackets. -/
def splitTopLevel (separates : Token → Bool) (depth : Nat) : List Token → List (List Token)
  | [] => [[]]
  | token :: rest =>
    if token.depthAfter depth == 0 && separates token then
      [] :: splitTopLevel separates 0 rest
    else
      match splitTopLevel separates (token.depthAfter depth) rest with
      | [] => [[token]]
      | part :: parts => (token :: part) :: parts

/-- The position of the first token outside brackets that satisfies `p`, in a list that begins at
bracket depth `depth`. -/
def findTopLevel? (p : Token → Bool) (depth : Nat) : List Token → Option Nat
  | [] => none
  | token :: rest =>
    if depth == 0 && p token then some 0
    else (findTopLevel? p (token.depthAfter depth) rest).map (· + 1)

/-- The parts of a list between the commas outside brackets. -/
def commaParts (tokens : List Token) : List (List Token) :=
  splitTopLevel (·.isSign ",") 0 tokens

theorem group_append_afterGroup (tokens : List Token) :
    group tokens ++ afterGroup tokens = tokens :=
  List.take_append_drop _ _

/-- The group of a list that is not empty is not empty. -/
theorem afterGroup_length_lt (token : Token) (rest : List Token) :
    (afterGroup (token :: rest)).length < (token :: rest).length := by
  have positive : 0 < groupSize 0 (token :: rest) := by
    unfold groupSize
    split <;> omega
  simp only [afterGroup, List.length_drop, List.length_cons]
  omega

end Lineage.Template
