import Lineage.Regex.CharClass

/-!
# Regular expressions and their matches

A pattern matches a stretch of a text, that is a pair of positions.  Whether a pattern matches
somewhere in a text is computed on sets of positions: every pattern sends the set of positions at
which a match may begin to the set of positions at which one that begins there may end.  A set is a
list of marks, one for each of the `n + 1` positions of a text of `n` characters.

Greedy and reluctant repetitions have the same matches, so a pattern does not tell them apart.
-/

namespace Lineage.Regex

/-- A condition on a position of a text. -/
inductive Anchor where
  | textStart
  | textEnd
  | lineStart (crlf : Bool)
  | lineEnd (crlf : Bool)
  | wordBoundary (unicode : Bool)
  | notWordBoundary (unicode : Bool)
  | wordStart (unicode : Bool)
  | wordEnd (unicode : Bool)
  | wordStartHalf (unicode : Bool)
  | wordEndHalf (unicode : Bool)

/-- Whether a word goes up to the position on the side of the character. -/
def isWordSide (unicode : Bool) : Option Char → Bool
  | some c => ((CharClass.shorthand? unicode 'w').getD .nothing).contains c
  | none => false

/-- Whether the condition holds between the characters `before` and `after`. -/
def Anchor.holds (anchor : Anchor) (before after : Option Char) : Bool :=
  match anchor with
  | .textStart => before.isNone
  | .textEnd => after.isNone
  | .lineStart crlf =>
    before.isNone || before == some '\n' || (crlf && before == some '\r' && after != some '\n')
  | .lineEnd crlf =>
    after.isNone || (after == some '\n' && !(crlf && before == some '\r')) ||
      (crlf && after == some '\r')
  | .wordBoundary unicode => isWordSide unicode before != isWordSide unicode after
  | .notWordBoundary unicode => isWordSide unicode before == isWordSide unicode after
  | .wordStart unicode => !isWordSide unicode before && isWordSide unicode after
  | .wordEnd unicode => isWordSide unicode before && !isWordSide unicode after
  | .wordStartHalf unicode => !isWordSide unicode before
  | .wordEndHalf unicode => !isWordSide unicode after

/-- A regular expression. -/
inductive Pattern where
  | empty
  | chars (set : CharClass)
  | anchor (condition : Anchor)
  | sequence (first second : Pattern)
  | alternative (left right : Pattern)
  /-- From `least` to `most` matches of the inner pattern, or any number from `least` on. -/
  | repetition (inner : Pattern) (least : Nat) (most : Option Nat)
  | group (inner : Pattern)

/-- The positions that are in one of the two sets. -/
def marksUnion (left right : List Bool) : List Bool :=
  List.zipWith (· || ·) left right

/-- Applies a step `count` times. -/
def iterate (step : List Bool → List Bool) : Nat → List Bool → List Bool
  | 0, marks => marks
  | count + 1, marks => iterate step count (step marks)

/-- Adds what is reached by at most `count` further steps, and stops when a step adds nothing. -/
def accumulate (step : List Bool → List Bool) : Nat → List Bool → List Bool
  | 0, marks => marks
  | count + 1, marks =>
    let more := marksUnion marks (step marks)
    if more = marks then marks else accumulate step count more

/-- The positions that satisfy an anchor, between each character and the one before. -/
def anchorMarks (condition : Anchor) (before : Option Char) : List Char → List Bool
  | [] => [condition.holds before none]
  | c :: rest => condition.holds before (some c) :: anchorMarks condition (some c) rest

/-- The positions at which a match may end that begins at one of the marked positions. -/
def Pattern.ends (text : List Char) : Pattern → List Bool → List Bool
  | .empty, marks => marks
  | .chars set, marks => false :: List.zipWith (fun mark c => mark && set.contains c) marks text
  | .anchor condition, marks => List.zipWith (· && ·) marks (anchorMarks condition none text)
  | .sequence first second, marks => second.ends text (first.ends text marks)
  | .alternative left right, marks => marksUnion (left.ends text marks) (right.ends text marks)
  | .repetition inner least most, marks =>
    let reached := iterate (fun m => inner.ends text m) least marks
    let further :=
      match most with
      | some limit => limit - least
      | none => text.length + 1
    accumulate (fun m => inner.ends text m) further reached
  | .group inner, marks => inner.ends text marks

/-- Whether the pattern matches a stretch of the text. -/
def Pattern.isMatch (pattern : Pattern) (text : List Char) : Bool :=
  (pattern.ends text (List.replicate (text.length + 1) true)).any id

/-- Whether a match begins at the position `start` of the text. -/
def Pattern.startsAt (pattern : Pattern) (text : List Char) (start : Nat) : Bool :=
  let marks := List.replicate start false ++ true :: List.replicate (text.length - start) false
  (pattern.ends text marks).any id

/-- The first position of the text at which a match begins. -/
def Pattern.firstMatch? (pattern : Pattern) (text : List Char) : Option Nat :=
  if pattern.isMatch text then (List.range (text.length + 1)).find? (pattern.startsAt text)
  else none

/-- An estimate of the size of the automaton of a pattern, in units of one state. -/
def Pattern.size : Pattern → Nat
  | .empty => 1
  | .chars set => set.size
  | .anchor _ => 1
  | .sequence first second => first.size + second.size
  | .alternative left right => left.size + right.size + 2
  | .repetition inner least most =>
    match most with
    | some limit => inner.size * least + (inner.size + 2) * (limit - least)
    | none => inner.size * (max least 1) + 2
  | .group inner => inner.size + 2

/-- The largest automaton that a pattern may have. -/
def sizeLimit : Nat :=
  327680

/-- The depth to which patterns are nested. -/
def Pattern.depth : Pattern → Nat
  | .empty | .chars _ | .anchor _ => 0
  | .sequence first second => max (first.depth + 1) second.depth
  | .alternative left right => max (left.depth + 1) right.depth
  | .repetition inner _ _ => inner.depth + 1
  | .group inner => inner.depth + 1

/-- The greatest depth to which patterns may be nested. -/
def depthLimit : Nat :=
  250

end Lineage.Regex
