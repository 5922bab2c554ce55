/-!
# Sets of code points

A set of code points is kept as the ascending list of the points at which membership changes.  The
first change enters the set, the next one leaves it, and so on; a code point belongs to the set
exactly when an odd number of changes lie at or below it.
-/

namespace Lineage.Text

/-- A set of code points, by the ascending points at which membership changes. -/
structure CodePointSet where
  changes : List Nat

/-- Whether an odd number of the ascending points lie at or below `n`. -/
def oddBelow (n : Nat) : List Nat → Bool
  | [] => false
  | change :: changes => if change ≤ n then !oddBelow n changes else false

/-- Membership of a code point. -/
def CodePointSet.containsPoint (set : CodePointSet) (n : Nat) : Bool :=
  oddBelow n set.changes

/-- Membership of a character. -/
def CodePointSet.contains (set : CodePointSet) (c : Char) : Bool :=
  set.containsPoint c.toNat

end Lineage.Text
