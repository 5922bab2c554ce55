import Lineage.Text.EditDistance
import Mathlib.Order.Bounds.Basic
import Mathlib.Order.MinMax

/-!
# The distance of two texts is the least number of edits

An edit inserts, deletes or replaces one character somewhere in a text (`Edit`), and edits are made
one after the other (`Edits`).  The main result says that the number that is computed row by row is
the least number of edits that turn one text into the other.

Between the two stand alignments (`Aligns`), which go through both texts once.  One more edit adds
at most one to the cost of an alignment (`Aligns.edit`), so edits are never cheaper.  An alignment
of two texts with a first character comes from one of three shorter ones, and these are the three
cells from which the next cell of a row is computed.  The rows belong to beginnings of the texts
while an alignment is taken apart at its front, so the beginnings are kept in reverse.
-/

namespace Lineage.Text

/-- One text becomes another by an edit: a character is inserted, deleted or replaced, at the front
or behind characters that stay. -/
inductive Edit : List Char → List Char → Prop
  | insert (c : Char) (text : List Char) : Edit text (c :: text)
  | delete (c : Char) (text : List Char) : Edit (c :: text) text
  | replace (c d : Char) (text : List Char) : Edit (c :: text) (d :: text)
  | behind {text other : List Char} (c : Char) (edit : Edit text other) :
    Edit (c :: text) (c :: other)

/-- One text becomes another by a number of edits. -/
inductive Edits : Nat → List Char → List Char → Prop
  | none (text : List Char) : Edits 0 text text
  | more {count : Nat} {text middle other : List Char} (edits : Edits count text middle)
    (edit : Edit middle other) : Edits (count + 1) text other

/-- Two texts are gone through from their fronts at a cost.  A character that stands in both costs
nothing. -/
inductive Aligns : Nat → List Char → List Char → Prop
  | nil : Aligns 0 [] []
  | keep {cost : Nat} {text other : List Char} (c : Char) (aligns : Aligns cost text other) :
    Aligns cost (c :: text) (c :: other)
  | insert {cost : Nat} {text other : List Char} (d : Char) (aligns : Aligns cost text other) :
    Aligns (cost + 1) text (d :: other)
  | delete {cost : Nat} {text other : List Char} (c : Char) (aligns : Aligns cost text other) :
    Aligns (cost + 1) (c :: text) other
  | replace {cost : Nat} {text other : List Char} (c d : Char)
    (aligns : Aligns cost text other) : Aligns (cost + 1) (c :: text) (d :: other)

variable {count cost : Nat} {text other : List Char} {c d : Char}

/-! ## Edits and alignments -/

theorem Edits.behind (edits : Edits count text other) (c : Char) :
    Edits count (c :: text) (c :: other) := by
  induction edits with
  | none text => exact .none (c :: text)
  | more _ edit ih => exact .more ih (.behind c edit)

/-- An alignment can be carried out by as many edits as it costs. -/
theorem Aligns.edits (aligns : Aligns cost text other) : Edits cost text other := by
  induction aligns with
  | nil => exact .none []
  | keep c _ ih => exact ih.behind c
  | insert d _ ih => exact .more ih (.insert d _)
  | delete c _ ih => exact .more (ih.behind c) (.delete c _)
  | replace c d _ ih => exact .more (ih.behind c) (.replace c d _)

theorem Aligns.refl (text : List Char) : Aligns 0 text text := by
  induction text with
  | nil => exact .nil
  | cons c text ih => exact .keep c ih

/-- An edit of the second text adds at most one to the cost. -/
theorem Aligns.edit {edited : List Char} (aligns : Aligns cost text other)
    (edit : Edit other edited) : ∃ most ≤ cost + 1, Aligns most text edited := by
  induction aligns generalizing edited with
  | nil =>
      cases edit with
      | insert d => exact ⟨1, Nat.le_refl 1, .insert d .nil⟩
  | @keep cost text other c aligns ih =>
      cases edit with
      | insert d => exact ⟨cost + 1, Nat.le_refl _, .insert d (.keep c aligns)⟩
      | delete => exact ⟨cost + 1, Nat.le_refl _, .delete c aligns⟩
      | replace _ d => exact ⟨cost + 1, Nat.le_refl _, .replace c d aligns⟩
      | behind _ edit =>
          obtain ⟨most, bound, further⟩ := ih edit
          exact ⟨most, bound, .keep c further⟩
  | @insert cost text other d aligns ih =>
      cases edit with
      | insert e => exact ⟨cost + 2, Nat.le_refl _, .insert e (.insert d aligns)⟩
      | delete => exact ⟨cost, by omega, aligns⟩
      | replace _ e => exact ⟨cost + 1, by omega, .insert e aligns⟩
      | behind _ edit =>
          obtain ⟨most, bound, further⟩ := ih edit
          exact ⟨most + 1, by omega, .insert d further⟩
  | @delete cost text other c aligns ih =>
      obtain ⟨most, bound, further⟩ := ih edit
      exact ⟨most + 1, by omega, .delete c further⟩
  | @replace cost text other c d aligns ih =>
      cases edit with
      | insert e => exact ⟨cost + 2, Nat.le_refl _, .insert e (.replace c d aligns)⟩
      | delete => exact ⟨cost + 1, by omega, .delete c aligns⟩
      | replace _ e => exact ⟨cost + 1, by omega, .replace c e aligns⟩
      | behind _ edit =>
          obtain ⟨most, bound, further⟩ := ih edit
          exact ⟨most + 1, by omega, .replace c d further⟩

/-- Edits are never cheaper than an alignment. -/
theorem Edits.exists_aligns (edits : Edits count text other) :
    ∃ cost ≤ count, Aligns cost text other := by
  induction edits with
  | none text => exact ⟨0, Nat.le_refl 0, .refl text⟩
  | more _ edit ih =>
      obtain ⟨cost, bound, aligns⟩ := ih
      obtain ⟨most, further, edited⟩ := aligns.edit edit
      exact ⟨most, by omega, edited⟩

theorem Aligns.append {further : Nat} {more others : List Char} (aligns : Aligns cost text other)
    (rest : Aligns further more others) :
    Aligns (cost + further) (text ++ more) (other ++ others) := by
  induction aligns with
  | nil => rwa [Nat.zero_add]
  | keep c _ ih => exact .keep c ih
  | insert d _ ih => rw [Nat.succ_add]; exact .insert d ih
  | delete c _ ih => rw [Nat.succ_add]; exact .delete c ih
  | replace c d _ ih => rw [Nat.succ_add]; exact .replace c d ih

/-- An alignment can be read from the back. -/
theorem Aligns.reverse (aligns : Aligns cost text other) :
    Aligns cost text.reverse other.reverse := by
  induction aligns with
  | nil => exact .nil
  | keep c _ ih =>
      rw [List.reverse_cons, List.reverse_cons]
      exact ih.append (.keep c .nil)
  | insert d _ ih =>
      rw [List.reverse_cons]
      simpa only [List.append_nil] using ih.append (.insert d .nil)
  | delete c _ ih =>
      rw [List.reverse_cons]
      simpa only [List.append_nil] using ih.append (.delete c .nil)
  | replace c d _ ih =>
      rw [List.reverse_cons, List.reverse_cons]
      exact ih.append (.replace c d .nil)

/-! ## Least costs -/

/-- The least cost of an alignment of two texts. -/
def IsLeastCost (text other : List Char) (cost : Nat) : Prop :=
  IsLeast {cost | Aligns cost text other} cost

namespace IsLeastCost

theorem nil : IsLeastCost [] [] 0 :=
  ⟨.nil, fun _ _ => Nat.zero_le _⟩

theorem insert (least : IsLeastCost [] other cost) (d : Char) :
    IsLeastCost [] (d :: other) (cost + 1) := by
  refine ⟨.insert d least.1, fun any aligns => ?_⟩
  cases aligns with
  | insert _ aligns => exact Nat.succ_le_succ (least.2 aligns)

theorem delete (least : IsLeastCost text [] cost) (c : Char) :
    IsLeastCost (c :: text) [] (cost + 1) := by
  refine ⟨.delete c least.1, fun any aligns => ?_⟩
  cases aligns with
  | delete _ aligns => exact Nat.succ_le_succ (least.2 aligns)

/-- The first characters are kept or replaced by each other, or one of the two is left out. -/
theorem cons {left behind above : Nat} (isLeft : IsLeastCost (c :: text) other left)
    (isBehind : IsLeastCost text (d :: other) behind) (isAbove : IsLeastCost text other above) :
    IsLeastCost (c :: text) (d :: other)
      (min (min left behind + 1) (above + if c = d then 0 else 1)) := by
  constructor
  · -- The least of the three costs is reached.
    have deleted : Aligns (behind + 1) (c :: text) (d :: other) := .delete c isBehind.1
    have inserted : Aligns (left + 1) (c :: text) (d :: other) := .insert d isLeft.1
    have both : Aligns (above + if c = d then 0 else 1) (c :: text) (d :: other) := by
      split
      · next same => exact same ▸ .keep c isAbove.1
      · exact .replace c d isAbove.1
    rcases min_choice (min left behind + 1) (above + if c = d then 0 else 1) with least | least
    · rw [least]
      rcases min_choice left behind with least | least
      · rwa [least]
      · rwa [least]
    · rwa [least]
  · intro any aligns
    cases aligns with
    | keep _ aligns =>
        have bound := isAbove.2 aligns
        rw [if_pos rfl]
        omega
    | insert _ aligns =>
        have bound := isLeft.2 aligns
        omega
    | delete _ aligns =>
        have bound := isBehind.2 aligns
        omega
    | replace _ _ aligns =>
        have bound := isAbove.2 aligns
        split <;> omega

/-- Texts can be compared from the back, and the cost of edits is the same. -/
theorem isLeast_edits (least : IsLeastCost text.reverse other.reverse cost) :
    IsLeast {count | Edits count text other} cost := by
  constructor
  · have aligns := least.1.reverse
    rw [List.reverse_reverse, List.reverse_reverse] at aligns
    exact aligns.edits
  · intro count edits
    obtain ⟨any, bound, aligns⟩ := edits.exists_aligns
    exact (least.2 aligns.reverse).trans bound

end IsLeastCost

/-! ## Rows -/

/-- The row of a text holds its least costs with all beginnings of another one that are at least as
long as `front`.  The text and `front` are reversed, and `other` is what comes behind `front`. -/
inductive IsRow (text : List Char) : List Char → List Char → List Nat → Prop
  | last {front : List Char} {cost : Nat} (least : IsLeastCost text front cost) :
    IsRow text front [] [cost]
  | cell {front other : List Char} {cost : Nat} {row : List Nat} (d : Char)
    (least : IsLeastCost text front cost) (further : IsRow text (d :: front) other row) :
    IsRow text front (d :: other) (cost :: row)

namespace IsRow

variable {front : List Char} {row : List Nat}

theorem exists_cons (isRow : IsRow text front other row) :
    ∃ first rest, row = first :: rest ∧ IsLeastCost text front first := by
  cases isRow with
  | last least => exact ⟨_, _, rfl, least⟩
  | cell _ least _ => exact ⟨_, _, rfl, least⟩

theorem getLast? (isRow : IsRow text front other row) :
    ∃ cost, row.getLast? = some cost ∧ IsLeastCost text (other.reverse ++ front) cost := by
  induction isRow with
  | last least => exact ⟨_, rfl, least⟩
  | @cell front other first row d _ _ ih =>
      obtain ⟨cost, isLast, least⟩ := ih
      refine ⟨cost, ?_, ?_⟩
      · rw [List.getLast?_cons, isLast, Option.getD_some]
      · rwa [List.reverse_cons, List.append_assoc]

/-- With nothing every beginning has its length as the cost. -/
theorem range' (least : IsLeastCost [] front cost) (other : List Char) :
    IsRow [] front other (List.range' cost (other.length + 1)) := by
  induction other generalizing front cost with
  | nil => exact .last least
  | cons d other ih => exact .cell d least (ih (least.insert d))

/-- The cells behind the first one continue the row of the longer text. -/
theorem nextCells {left : Nat} (isRow : IsRow text front other row)
    (isLeft : IsLeastCost (c :: text) front left) :
    IsRow (c :: text) front other (left :: Text.nextCells c left other row) := by
  induction isRow generalizing left with
  | last _ => exact .last isLeft
  | cell d isAbove further ih =>
      obtain ⟨behind, rest, rfl, isBehind⟩ := further.exists_cons
      exact .cell d isLeft (ih (isLeft.cons isBehind isAbove))

/-- A row gives the next one. -/
theorem nextRow (isRow : IsRow text [] other row) (c : Char) :
    IsRow (c :: text) [] other (Text.nextRow c other row) := by
  obtain ⟨above, rest, rfl, least⟩ := isRow.exists_cons
  exact isRow.nextCells (least.delete c)

theorem foldl_nextRow {before : List Char} (isRow : IsRow before [] other row)
    (text : List Char) : IsRow (text.reverse ++ before) [] other
      (text.foldl (fun row c => Text.nextRow c other row) row) := by
  induction text generalizing before row with
  | nil => exact isRow
  | cons c text ih =>
      rw [List.reverse_cons, List.append_assoc]
      exact ih (isRow.nextRow c)

end IsRow

/-- The distance of two texts is the least number of characters that have to be inserted, deleted
or replaced to turn one into the other. -/
theorem isLeast_editDistance (text other : List Char) :
    IsLeast {count | Edits count text other} (editDistance text other) := by
  have first := IsRow.range' .nil other
  rw [← List.range_eq_range'] at first
  obtain ⟨cost, isLast, least⟩ := (first.foldl_nextRow text).getLast?
  rw [editDistance, isLast, Option.getD_some]
  rw [List.append_nil, List.append_nil] at least
  exact least.isLeast_edits

end Lineage.Text
