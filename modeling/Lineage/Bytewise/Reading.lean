import Lineage.Bytewise.Brackets
import Lineage.Template.Reading

/-!
# Reads by positions

Whether a word is a variable and what protects its read is told from the tokens around it, by
positions in their list that are computed from one another: the end of a group, of a test, of a
value and of a chain of suffixes and filters.  Descriptions are slices of the expression between
the positions of two tokens.
-/

namespace Lineage.Bytewise

open Lineage.Text Lineage.Template

/-- The list with another member at an index, which has to be inside. -/
def set? {α : Type} (list : List α) (index : Nat) (value : α) : Option (List α) :=
  if index < list.length then some (list.set index value) else none

/-- Whether the token at `index` is behind `is` or `is not`. -/
def isTestName (tokens : List PlacedToken) (index : Nat) : Option Bool := do
  if index = 0 then return false
  else if index = 1 then
    let first ← tokens[0]?
    return first.isWord "is"
  else
    let last ← tokens[← minus? index 1]?
    if last.isWord "is" then return true
    else if last.isWord "not" then
      let previous ← tokens[← minus? index 2]?
      return previous.isWord "is"
    else return false

/-! ## Inline conditions -/

/-- The end of the test of which the tokens from `index` on begin inside `depth` brackets, if it
ends before the end of the list. -/
def testEnd? (depth index : Nat) : List PlacedToken → Option (Option Nat)
  | [] => return none
  | token :: rest =>
    if token.opens?.isSome then testEnd? (depth + 1) (index + 1) rest
    else if token.closes?.isSome then
      if depth = 0 then return some index
      else do
        let fewer ← minus? depth 1
        testEnd? fewer (index + 1) rest
    else if depth = 0 ∧ (token.isSign "," ∨ token.isWord "else") then return some index
    else testEnd? depth (index + 1) rest

/-- The end of the test behind the inline `if` at `position`. -/
def testEnd (tokens : List PlacedToken) (position : Nat) : Option Nat := do
  let found ← testEnd? 0 (position + 1) (tokens.drop (position + 1))
  return found.getD tokens.length

/-- The start of the value of which the tokens in front of `position` end inside `depth`
brackets. -/
def valueStart (tokens : List PlacedToken) (depth : Nat) : (position : Nat) → Option Nat
  | 0 => return 0
  | index + 1 => do
    let token ← tokens[index]?
    if token.closes?.isSome then valueStart tokens (depth + 1) index
    else if token.opens?.isSome then
      if depth = 0 then return index + 1
      else
        let fewer ← minus? depth 1
        valueStart tokens fewer index
    else if depth = 0 ∧ (token.isSign "," ∨ token.isWord "else") then return index + 1
    else valueStart tokens depth index

/-- Marks the tokens of a test at the given indexes, and notes the names among them. -/
def markTest (tokens : List PlacedToken) (mask : List Bool) (tested : List (List Char)) :
    (indexes : List Nat) → Option (List Bool × List (List Char))
  | [] => return (mask, tested)
  | index :: indexes => do
    let mask ← set? mask index true
    let token ← tokens[index]?
    if token.word?.any (!keywords.contains ·) then
      markTest tokens mask (tested ++ [token.text]) indexes
    else markTest tokens mask tested indexes

/-- Marks the words of a value at the given indexes that the test names too. -/
def markValue (tokens : List PlacedToken) (tested : List (List Char)) (mask : List Bool) :
    (indexes : List Nat) → Option (List Bool)
  | [] => return mask
  | index :: indexes => do
    let token ← tokens[index]?
    if tested.contains token.text ∧ token.kind = .word then
      let mask ← set? mask index true
      markValue tokens tested mask indexes
    else markValue tokens tested mask indexes

/-- Marks what the inline conditions guard whose `if` is among the tokens from `index` on. -/
def markConditions (tokens : List PlacedToken) (mask : List Bool) (index : Nat) :
    List PlacedToken → Option (List Bool)
  | [] => return mask
  | token :: rest => do
    if token.isWord "if" ∧ index ≠ 0 then
      let stop ← testEnd tokens index
      let (mask, tested) ← markTest tokens mask [] (List.range' (index + 1) (stop - (index + 1)))
      let start ← valueStart tokens 0 index
      let mask ← markValue tokens tested mask (List.range' start (index - start))
      markConditions tokens mask (index + 1) rest
    else markConditions tokens mask (index + 1) rest

/-! ## Fallbacks -/

/-- The slice of the source from the first token to the position `stop`. -/
def describeFrom (source : List Char) (first : PlacedToken) (stop : Nat) : Option String := do
  if first.kind = .literal ∧ first.stop = stop then
    return String.ofList (← first.unquoted)
  else
    let slice ← slice? source first.start stop
    return String.ofList (trim slice)

/-- The position behind the attributes, subscripts and calls that begin at a position. -/
def suffixEnd (tokens : List PlacedToken) (index : Nat) : Option Nat :=
  if index < tokens.length then do
    let token ← tokens[index]?
    if token.isSign "." ∧ tokens[index + 1]?.any (·.word?.isSome) then suffixEnd tokens (index + 2)
    else if token.isSign "(" ∨ token.isSign "[" then
      let ⟨_⟩ ← isBelow? index (groupEnd tokens index)
      suffixEnd tokens (groupEnd tokens index)
    else return index
  else return index
termination_by tokens.length - index

/-- The description of the operand at `index`, with a call or a subscript that follows directly. -/
def operandAt (source : List Char) (tokens : List PlacedToken) (index : Nat) :
    Option (Option String) := do
  match tokens[index]? with
  | none => return none
  | some operand =>
    if tokens[index + 1]?.any fun token => token.isSign "(" || token.isSign "[" then
      let last ← tokens[← minus? (groupEnd tokens (index + 1)) 1]?
      return some (← describeFrom source operand last.stop)
    else return some (← describeFrom source operand operand.stop)

/-- The description of the first of the arguments, empty if there is none. -/
def firstArgument (source : List Char) (arguments : List PlacedToken) : Option String := do
  let parts ← cutAtCommas arguments
  match parts.head? with
  | none => return ""
  | some part =>
    if part.isEmpty then return ""
    else
      let first ← part[0]?
      let last ← part[← minus? part.length 1]?
      describeFrom source first last.stop

theorem lt_length_of_any {tokens : List PlacedToken} {p : PlacedToken → Bool} {index : Nat}
    (here : tokens[index]?.any p = true) : index < tokens.length := by
  refine Nat.lt_of_not_le fun beyond => ?_
  rw [List.getElem?_eq_none beyond] at here
  cases here

/-- The description of the first default filter in the chain of filters that begins at a
position. -/
def filterAt (source : List Char) (tokens : List PlacedToken) (index : Nat) :
    Option (Option String) := do
  if tokens[index]?.any (·.isSign "|") then
    match tokens[index + 1]?.bind PlacedToken.word? with
    | none => return none
    | some filter =>
      if tokens[index + 2]?.any (·.isSign "(") then
        let close := groupEnd tokens (index + 2)
        let arguments ← part? tokens (index + 3) (max (close - 1) (index + 3))
        if defaultFilters.contains filter then return some (← firstArgument source arguments)
        else
          let ⟨_⟩ ← isBelow? index close
          filterAt source tokens close
      else if defaultFilters.contains filter then return some ""
      else filterAt source tokens (index + 2)
  else return none
termination_by tokens.length - index
decreasing_by
  all_goals
    have inside := lt_length_of_any ‹_›
    omega

/-- The description of the fallback that protects the read at `index`. -/
def fallbackAfter (source : List Char) (tokens : List PlacedToken) (index : Nat) :
    Option (Option String) := do
  let index ← suffixEnd tokens (index + 1)
  if tokens[index]?.any (·.isWord "or") then operandAt source tokens (index + 1)
  else filterAt source tokens index

/-! ## Reads -/

/-- What has been found in an expression. -/
structure Scan where
  occurrences : List Occurrence
  callsSuper : Bool
deriving DecidableEq, Repr

section Scan

variable (source : List Char) (tokens : List PlacedToken) (mask : List Bool) (context : Context)
  (bound : List String)

/-- The token in front of an index, if there is one. -/
def previous? (index : Nat) : Option (Option PlacedToken) :=
  match minus? index 1 with
  | none => return none
  | some position => do
    let token ← tokens[position]?
    return some token

/-- What the token at `index` is found to be. -/
def scanAt (index : Nat) (token : PlacedToken) : Option Scan :=
  match token.word? with
  | none => return ⟨[], false⟩
  | some name => do
    if keywords.contains name then return ⟨[], false⟩
    let previous ← previous? tokens index
    let next := tokens[index + 1]?
    if name = "super" ∧ next.any (·.isSign "(") then return ⟨[], true⟩
    if context = .filter ∧ index = 0 then return ⟨[], false⟩
    if previous.any fun token => token.isSign "." || token.isSign "|" then return ⟨[], false⟩
    if ← isTestName tokens index then return ⟨[], false⟩
    if next.any (·.isSign "=") ∨ builtins.contains name ∨ bound.contains name then
      return ⟨[], false⟩
    match ← fallbackAfter source tokens index with
    | some description => return ⟨[⟨name, .fallback description⟩], false⟩
    | none =>
      if context = .test then return ⟨[⟨name, .conditional⟩], false⟩
      else
        let guarded ← mask[index]?
        return ⟨[⟨name, if guarded then .conditional else .bare⟩], false⟩

/-- What the tokens from `index` on are found to be. -/
def scanFrom (index : Nat) : List PlacedToken → Option Scan
  | [] => return ⟨[], false⟩
  | token :: rest => do
    let here ← scanAt source tokens mask context bound index token
    let later ← scanFrom (index + 1) rest
    return ⟨here.occurrences ++ later.occurrences, here.callsSuper || later.callsSuper⟩

end Scan

/-- What is found in a part of an expression, where `bound` are the names bound around it. -/
def scan (source : List Char) (tokens : List PlacedToken) (context : Context)
    (bound : List String) : Option Scan := do
  let mask ← markConditions tokens (List.replicate tokens.length false) 0 tokens
  scanFrom source tokens mask context bound 0 tokens

end Lineage.Bytewise
