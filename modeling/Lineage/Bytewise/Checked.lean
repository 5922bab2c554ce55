import Lineage.Text.Bytes

/-!
# Computations that may break off

A text is read by positions in its bytes, and a list of tokens by positions in the list.  Such a
reading breaks off at an index beyond the end, at a slice that is out of range or cuts a character,
and at a difference below zero; a loop that would not move on counts as broken off too.  A reading
that does not break off has an outcome: a value, or the cause for which it is refused.
-/

namespace Lineage.Bytewise

/-- A computation that has a value, is refused with a cause, or breaks off (`none`). -/
abbrev Checked (ε α : Type) : Type :=
  ExceptT ε Option α

/-- The computation with the given outcome. -/
def settled {ε α : Type} (outcome : Except ε α) : Checked ε α :=
  ExceptT.mk (some outcome)

/-- The part of a list between two positions.  There is none if the first position is behind the
second, or the second beyond the end. -/
def part? {α : Type} (list : List α) (start stop : Nat) : Option (List α) :=
  if start ≤ stop ∧ stop ≤ list.length then some ((list.drop start).take (stop - start)) else none

/-- Two numbers of which the first is below the second. -/
structure Below (lower upper : Nat) : Type where
  lt : lower < upper

/-- The order of two positions, if the second one is ahead.  A loop that moves from the one to the
other goes on with this. -/
def isBelow? (lower upper : Nat) : Option (Below lower upper) :=
  if below : lower < upper then some ⟨below⟩ else none

section Settled

variable {ε ε' α β : Type}

@[simp]
theorem settled_ok (value : α) : settled (ε := ε) (.ok value) = pure value :=
  rfl

@[simp]
theorem settled_error (cause : ε) : settled (α := α) (.error cause) = throw cause :=
  rfl

@[simp]
theorem throw_bind (cause : ε) (next : α → Checked ε β) :
    (throw cause : Checked ε α) >>= next = throw cause :=
  rfl

@[simp]
theorem liftM_some (value : α) : (liftM (some value) : Checked ε α) = pure value :=
  rfl

@[simp]
theorem adapt_pure (value : α) (f : ε → ε') :
    (pure value : Checked ε α).adapt f = (pure value : Checked ε' α) :=
  rfl

@[simp]
theorem adapt_throw (cause : ε) (f : ε → ε') :
    (throw cause : Checked ε α).adapt f = (throw (f cause) : Checked ε' α) :=
  rfl

theorem settled_map (outcome : Except ε α) (f : α → β) :
    (settled outcome >>= fun value => pure (f value)) = settled (outcome.map f) := by
  cases outcome <;> rfl

end Settled

theorem isBelow?_of_lt {lower upper : Nat} (below : lower < upper) :
    isBelow? lower upper = some ⟨below⟩ :=
  dif_pos below

theorem part?_of_le {α : Type} {list : List α} {start stop : Nat} (ordered : start ≤ stop)
    (inside : stop ≤ list.length) :
    part? list start stop = some ((list.drop start).take (stop - start)) :=
  if_pos ⟨ordered, inside⟩

/-- The rest of a list from a position on. -/
theorem part?_drop {α : Type} {list : List α} {start : Nat} (inside : start ≤ list.length) :
    part? list start list.length = some (list.drop start) := by
  rw [part?_of_le inside (Nat.le_refl _), ← List.length_drop, List.take_length]

/-- A list up to a position. -/
theorem part?_take {α : Type} {list : List α} {stop : Nat} (inside : stop ≤ list.length) :
    part? list 0 stop = some (list.take stop) := by
  rw [part?_of_le (Nat.zero_le _) inside, List.drop_zero, Nat.sub_zero]

end Lineage.Bytewise
