import Lineage.Bytewise.Token
import Lineage.Template.Brackets

/-!
# Brackets by positions

Where a group ends, where a list is cut at a separator and where a token stands outside brackets are
positions in a list of tokens.  The parts of a list are slices between two such positions.
-/

namespace Lineage.Bytewise

open Lineage.Text Lineage.Template

namespace PlacedToken

/-- The kind of bracket that the token opens, if it opens one. -/
def opens? (token : PlacedToken) : Option Bracket :=
  [Bracket.round, .square, .curly].find? fun bracket => token.isSign bracket.opening

/-- The kind of bracket that the token closes, if it closes one. -/
def closes? (token : PlacedToken) : Option Bracket :=
  [Bracket.round, .square, .curly].find? fun bracket => token.isSign bracket.closing

/-- The bracket depth behind a token that stands at depth `depth`. -/
def depthAfter (depth : Nat) (token : PlacedToken) : Nat :=
  if token.opens?.isSome then depth + 1 else if token.closes?.isSome then depth - 1 else depth

end PlacedToken

/-- Accepts a list of tokens, behind the open brackets `pending`, if its brackets pair up. -/
def checkBalanced (pending : List Bracket) : List PlacedToken → Except Template.Cause Unit
  | [] =>
    match pending with
    | [] => .ok ()
    | bracket :: _ => .error (.unclosedBracket bracket)
  | token :: rest =>
    match token.opens?, token.closes? with
    | some bracket, _ => checkBalanced (bracket :: pending) rest
    | none, some bracket =>
      if pending.head? = some bracket then checkBalanced pending.tail rest
      else .error (.unbalanced bracket)
    | none, none => checkBalanced pending rest

/-- The position behind the token that closes the group in which the tokens from `index` on begin,
if it is closed. -/
def groupEnd? (depth index : Nat) : List PlacedToken → Option Nat
  | [] => none
  | token :: rest =>
    if token.closes?.isSome && token.depthAfter depth == 0 then some (index + 1)
    else groupEnd? (token.depthAfter depth) (index + 1) rest

/-- The position behind the group that the token at `opening` opens. -/
def groupEnd (tokens : List PlacedToken) (opening : Nat) : Nat :=
  (groupEnd? 0 opening (tokens.drop opening)).getD tokens.length

/-- The parts of `tokens` from `start` on, of which the tokens from `index` on are still to be read
and begin at bracket depth `depth`. -/
def cutFrom (tokens : List PlacedToken) (separates : PlacedToken → Bool) (depth start index : Nat) :
    List PlacedToken → Option (List (List PlacedToken))
  | [] => do
    let part ← part? tokens start tokens.length
    return [part]
  | token :: rest =>
    if token.depthAfter depth == 0 && separates token then do
      let part ← part? tokens start index
      let others ← cutFrom tokens separates (token.depthAfter depth) (index + 1) (index + 1) rest
      return part :: others
    else cutFrom tokens separates (token.depthAfter depth) start (index + 1) rest

/-- The parts of a list between the commas outside brackets. -/
def cutAtCommas (tokens : List PlacedToken) : Option (List (List PlacedToken)) :=
  cutFrom tokens (·.isSign ",") 0 0 0 tokens

/-- The position of the first token outside brackets that satisfies `p`, of which the tokens from
`index` on begin at bracket depth `depth`. -/
def findFrom? (p : PlacedToken → Bool) (depth index : Nat) : List PlacedToken → Option Nat
  | [] => none
  | token :: rest =>
    if depth == 0 && p token then some index
    else findFrom? p (token.depthAfter depth) (index + 1) rest

/-- The tokens of an expression, which are in order and whose brackets pair up. -/
def tokensOf (text : List Char) : Checked Template.Cause (List PlacedToken) := do
  let tokens ← tokensFrom text 0
  settled (checkBalanced [] tokens)
  return tokens

end Lineage.Bytewise
