/-!
# Splitting texts

A text is split at every occurrence of a separating character.  A text without one is a single part.
-/

namespace Lineage.Text

/-- The parts of a text between the separators, of which there is at least one. -/
def splitAt (separator : Char) : List Char → List (List Char)
  | [] => [[]]
  | c :: rest =>
    if c = separator then [] :: splitAt separator rest
    else
      match splitAt separator rest with
      | [] => [[c]]
      | part :: parts => (c :: part) :: parts

/-- Joins parts with a separator between them. -/
def joinWith (separator : Char) : List (List Char) → List Char
  | [] => []
  | [part] => part
  | part :: parts => part ++ separator :: joinWith separator parts

theorem splitAt_ne_nil (separator : Char) (text : List Char) : splitAt separator text ≠ [] := by
  cases text with
  | nil => simp [splitAt]
  | cons c rest =>
      simp only [splitAt]
      split
      · simp
      · split <;> simp

/-- Joining the parts gives the text back. -/
theorem joinWith_splitAt (separator : Char) (text : List Char) :
    joinWith separator (splitAt separator text) = text := by
  induction text with
  | nil => rfl
  | cons c rest ih =>
      simp only [splitAt]
      have parts_ne_nil := splitAt_ne_nil separator rest
      by_cases equal : c = separator
      · simp only [equal, ↓reduceIte]
        cases h : splitAt separator rest with
        | nil => exact absurd h parts_ne_nil
        | cons part parts => simpa [joinWith, h] using ih
      · simp only [equal, ↓reduceIte]
        cases h : splitAt separator rest with
        | nil => exact absurd h parts_ne_nil
        | cons part parts =>
          rw [h] at ih
          cases parts with
          | nil => simpa [joinWith] using ih
          | cons next more => simpa [joinWith] using ih

/-- Between joined parts there are only separators. -/
theorem mem_joinWith {separator c : Char} {parts : List (List Char)}
    (member : c ∈ joinWith separator parts) : c = separator ∨ ∃ part ∈ parts, c ∈ part := by
  induction parts with
  | nil => cases member
  | cons part parts ih =>
      cases parts with
      | nil => exact Or.inr ⟨part, List.mem_singleton_self part, member⟩
      | cons next more =>
          simp only [joinWith, List.mem_append, List.mem_cons] at member
          rcases member with here | same | behind
          · exact Or.inr ⟨part, List.mem_cons_self, here⟩
          · exact Or.inl same
          · rcases ih behind with same | ⟨other, member, inside⟩
            · exact Or.inl same
            · exact Or.inr ⟨other, List.mem_cons_of_mem _ member, inside⟩

/-- Joined parts hold what the parts hold. -/
theorem mem_joinWith_of_mem {separator c : Char} {part : List Char} {parts : List (List Char)}
    (member : part ∈ parts) (inside : c ∈ part) : c ∈ joinWith separator parts := by
  induction parts with
  | nil => cases member
  | cons other parts ih =>
      cases parts with
      | nil =>
          cases List.mem_singleton.mp member
          exact inside
      | cons next more =>
          rw [joinWith, List.mem_append, List.mem_cons]
          rcases List.mem_cons.mp member with rfl | behind
          · exact Or.inl inside
          · exact Or.inr (Or.inr (ih behind))
          · exact nofun

/-- No part holds a separator. -/
theorem notMem_of_mem_splitAt {separator : Char} {part text : List Char}
    (member : part ∈ splitAt separator text) : separator ∉ part := by
  induction text generalizing part with
  | nil =>
      cases List.mem_singleton.mp member
      exact List.not_mem_nil
  | cons c rest ih =>
      rw [splitAt] at member
      split at member
      · rcases List.mem_cons.mp member with rfl | further
        · exact List.not_mem_nil
        · exact ih further
      · rename_i other
        split at member
        · rename_i none
          exact absurd none (splitAt_ne_nil separator rest)
        · rename_i first parts split
          rw [split] at ih
          rcases List.mem_cons.mp member with rfl | further
          · rw [List.mem_cons, not_or]
            exact ⟨Ne.symm other, ih List.mem_cons_self⟩
          · exact ih (List.mem_cons_of_mem _ further)

theorem splitAt_append_separator (separator : Char) (first second : List Char) :
    splitAt separator (first ++ separator :: second) =
      splitAt separator first ++ splitAt separator second := by
  induction first with
  | nil => simp [splitAt]
  | cons c first ih =>
      simp only [List.cons_append, splitAt, ih]
      split
      · rfl
      · cases parts : splitAt separator first with
        | nil => exact absurd parts (splitAt_ne_nil separator first)
        | cons part parts => rfl

theorem splitAt_of_notMem {separator : Char} {text : List Char} (whole : separator ∉ text) :
    splitAt separator text = [text] := by
  induction text with
  | nil => rfl
  | cons c rest ih =>
      have other : c ≠ separator := fun same => whole (same ▸ List.mem_cons_self)
      rw [splitAt, if_neg other, ih fun member => whole (List.mem_cons_of_mem _ member)]

theorem splitAt_replicate (separator : Char) (count : Nat) :
    splitAt separator (List.replicate count separator) = List.replicate (count + 1) [] := by
  induction count with
  | zero => rfl
  | succ count ih => rw [List.replicate_succ, splitAt, if_pos rfl, ih, ← List.replicate_succ]

/-- A text without a separator goes on with the last part. -/
theorem splitAt_append_of_notMem {separator : Char} {more : List Char} (whole : separator ∉ more)
    (text : List Char) : ∃ before last, splitAt separator text = before ++ [last] ∧
      splitAt separator (text ++ more) = before ++ [last ++ more] := by
  induction text with
  | nil =>
      exact ⟨[], [], rfl, splitAt_of_notMem whole⟩
  | cons c text ih =>
      obtain ⟨before, last, parts, longer⟩ := ih
      rw [List.cons_append, splitAt, splitAt, parts, longer]
      split
      · exact ⟨[] :: before, last, rfl, rfl⟩
      · cases before with
        | nil => exact ⟨[], c :: last, rfl, rfl⟩
        | cons part before => exact ⟨(c :: part) :: before, last, rfl, rfl⟩

/-- Splitting joined parts gives them back. -/
theorem splitAt_joinWith {separator : Char} {parts : List (List Char)} (filled : parts ≠ [])
    (whole : ∀ part ∈ parts, separator ∉ part) :
    splitAt separator (joinWith separator parts) = parts := by
  induction parts with
  | nil => contradiction
  | cons part parts ih =>
      rcases List.forall_mem_cons.mp whole with ⟨here, there⟩
      cases parts with
      | nil => exact splitAt_of_notMem here
      | cons next more =>
          rw [joinWith, splitAt_append_separator, splitAt_of_notMem here,
            ih (List.cons_ne_nil _ _) there, List.singleton_append]
          simp

end Lineage.Text
