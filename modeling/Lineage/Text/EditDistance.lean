/-!
# Edit distances

The distance of two texts is the least number of characters that have to be inserted, deleted or
replaced to turn one into the other.  It is computed row by row: the row of a text holds its
distances to all beginnings of another one.
-/

namespace Lineage.Text

/-- The cells of the next row behind its first one.  `left` is the cell before, and `row` begins
with the cell above that one. -/
def nextCells (c : Char) (left : Nat) : List Char → List Nat → List Nat
  | d :: other, above :: row =>
    match row with
    | [] => []
    | behind :: _ =>
      let cell := min (min left behind + 1) (above + if c = d then 0 else 1)
      cell :: nextCells c cell other row
  | _, _ => []

/-- The row of a text that is one character longer. -/
def nextRow (c : Char) (other : List Char) (row : List Nat) : List Nat :=
  match row with
  | [] => []
  | above :: _ => (above + 1) :: nextCells c (above + 1) other row

/-- The distance of two texts. -/
def editDistance (text other : List Char) : Nat :=
  let row := text.foldl (fun row c => nextRow c other row) (List.range (other.length + 1))
  row.getLast?.getD 0

end Lineage.Text
