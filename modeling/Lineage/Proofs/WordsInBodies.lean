import Lineage.Proofs.PieceReplacement
import Lineage.Proofs.WordReplacement

/-!
# Another word in a body

A word in the body of an output or a tag is read over on the way to the closing delimiter, whatever
it is, and it is no part of what is trimmed.  So another identifier in its place leaves the end of
the construct where it is (`splitAtClosing_word`) and the rest of the body as it is (`bodyOf_word`).
-/

namespace Lineage.Template

open Lineage.Text

/-! ## The end of a body -/

/-- The mark of the literal in which a position lies. -/
def Quoting.mark? : Quoting → Option Char
  | .plain => none
  | .quoted mark | .escaped mark => some mark

/-- If the cursor stands in a literal, its mark is a quotation mark. -/
def Cursor.IsSound (cursor : Cursor) : Prop :=
  ∀ mark ∈ cursor.quoting.mark?, IsQuote mark

theorem Cursor.isSound_start : Cursor.start.IsSound := by
  rintro mark ⟨⟩

theorem Cursor.mark?_advance (cursor : Cursor) (c : Char) :
    (cursor.advance c).quoting.mark? = cursor.quoting.mark? ∨
      (cursor.advance c).quoting.mark? = none ∨
        (IsQuote c ∧ (cursor.advance c).quoting.mark? = some c) := by
  rcases cursor with ⟨quoting, braces⟩
  cases quoting with
  | escaped mark => exact Or.inl rfl
  | quoted mark =>
      simp only [advance]
      split
      · exact Or.inl rfl
      · split
        · exact Or.inr (Or.inl rfl)
        · exact Or.inl rfl
  | plain =>
      simp only [advance]
      split
      · rename_i isQuote
        exact Or.inr (Or.inr ⟨isQuote, rfl⟩)
      · split
        · exact Or.inl rfl
        · split
          · exact Or.inl rfl
          · exact Or.inl rfl

theorem Cursor.IsSound.advance {cursor : Cursor} (sound : cursor.IsSound) (c : Char) :
    (cursor.advance c).IsSound := by
  intro mark isMark
  rcases cursor.mark?_advance c with same | none | ⟨isQuote, isNew⟩
  · rw [same] at isMark
    exact sound mark isMark
  · rw [none] at isMark
    cases isMark
  · rw [isNew] at isMark
    cases isMark
    exact isQuote

/-- The state behind a word. -/
def Cursor.behindWord (cursor : Cursor) : Cursor :=
  match cursor.quoting with
  | .escaped mark => ⟨.quoted mark, cursor.braces⟩
  | _ => cursor

theorem Cursor.IsSound.advance_word {cursor : Cursor} (sound : cursor.IsSound) {c : Char}
    (continues : continuesWord c = true) : cursor.advance c = cursor.behindWord := by
  have inert : ∀ d ∈ ['"', '\'', '{', '}', '\\'], c ≠ d := by
    rintro d member rfl
    have none : ['"', '\'', '{', '}', '\\'].all (fun d => !continuesWord d) = true := by decide
    have here := List.all_eq_true.mp none _ member
    rw [continues] at here
    cases here
  rcases cursor with ⟨quoting, braces⟩
  cases quoting with
  | escaped mark => rfl
  | quoted mark =>
      have isQuote := sound mark rfl
      have noMark : c ≠ mark := by
        rcases isQuote with rfl | rfl
        · exact inert _ (by decide)
        · exact inert _ (by decide)
      simp [Cursor.advance, Cursor.behindWord, noMark, inert '\\' (by decide)]
  | plain =>
      simp [Cursor.advance, Cursor.behindWord, inert '"' (by decide), inert '\'' (by decide),
        inert '{' (by decide), inert '}' (by decide)]

theorem Cursor.behindWord_behindWord (cursor : Cursor) :
    cursor.behindWord.behindWord = cursor.behindWord := by
  rcases cursor with ⟨quoting, braces⟩
  cases quoting <;> rfl

/-- A text of letters that may go on with a word, with at least one of them. -/
structure IsWordText (word : List Char) : Prop where
  filled : word ≠ []
  continues : ∀ c ∈ word, continuesWord c = true

section Closing

variable {closer : Char} {cursor : Cursor} {before word word' text inner rest : List Char}

theorem splitAtClosing_word_iff (noCloser : continuesWord closer = false) (sound : cursor.IsSound)
    (isWord : IsWordText word) :
    splitAtClosing closer cursor (word ++ text) = .ok (word ++ inner, rest) ↔
      splitAtClosing closer cursor.behindWord text = .ok (inner, rest) := by
  rcases isWord with ⟨filled, continues⟩
  induction word generalizing cursor with
  | nil => contradiction
  | cons c word ih =>
      rcases List.forall_mem_cons.mp continues with ⟨here, there⟩
      have other : c ≠ closer := by
        rintro rfl
        cases here.symm.trans noCloser
      have soundBehind := sound.advance c
      rw [List.cons_append, List.cons_append, splitAtClosing_cons_iff, sound.advance_word here,
        and_iff_right (closes_eq_false_of_ne other)]
      rw [sound.advance_word here] at soundBehind
      cases word with
      | nil => rfl
      | cons d word =>
          rw [ih soundBehind (List.cons_ne_nil d word) there, cursor.behindWord_behindWord]

/-- A body in which a word is replaced by another ends where it ended. -/
theorem splitAtClosing_replace (noCloser : continuesWord closer = false) (sound : cursor.IsSound)
    (isWord : IsWordText word) (isWord' : IsWordText word')
    (found : splitAtClosing closer cursor (before ++ (word ++ text)) =
      .ok (before ++ (word ++ inner), rest)) :
    splitAtClosing closer cursor (before ++ (word' ++ text)) =
      .ok (before ++ (word' ++ inner), rest) := by
  induction before generalizing cursor with
  | nil =>
      rw [List.nil_append, List.nil_append, splitAtClosing_word_iff noCloser sound isWord] at found
      rwa [List.nil_append, List.nil_append, splitAtClosing_word_iff noCloser sound isWord']
  | cons c before ih =>
      rw [List.cons_append, List.cons_append, splitAtClosing_cons_iff] at found ⊢
      refine ⟨?_, ih (sound.advance c) found.2⟩
      cases before with
      | cons d before => exact found.1
      | nil =>
          -- No word begins with the brace that a closing delimiter ends with.
          apply closes_eq_false_of_head
          rcases isWord' with ⟨filled, continues⟩
          cases word' with
          | nil => contradiction
          | cons d word' =>
              intro isBrace
              cases isBrace
              exact absurd (continues '}' List.mem_cons_self) (by decide)

end Closing

/-! ## Trimming -/

theorem IsWordText.noBlank {word : List Char} (isWord : IsWordText word) (more : List Char) :
    ∀ c ∈ (word ++ more).head?, isBlank c = false := by
  rcases isWord with ⟨filled, continues⟩
  cases word with
  | nil => contradiction
  | cons d word =>
      rintro c ⟨⟩
      exact isBlank_of_continuesWord (continues _ List.mem_cons_self)

theorem IsWordText.reverse {word : List Char} (isWord : IsWordText word) :
    IsWordText word.reverse where
  filled := List.reverse_ne_nil_iff.mpr isWord.filled
  continues c member := isWord.continues c (List.mem_reverse.mp member)

theorem trimStart_word {word : List Char} (isWord : IsWordText word) (before after : List Char) :
    trimStart (before ++ (word ++ after)) = trimStart before ++ (word ++ after) :=
  dropWhile_behind (isWord.noBlank after) before

theorem trimEnd_word {word : List Char} (isWord : IsWordText word) (before after : List Char) :
    trimEnd (before ++ (word ++ after)) = before ++ (word ++ trimEnd after) := by
  have reversed : (before ++ (word ++ after)).reverse =
      after.reverse ++ (word.reverse ++ before.reverse) := by simp
  rw [trimEnd, reversed, dropWhile_behind (isWord.reverse.noBlank before.reverse)]
  simp [trimEnd]

theorem dropSign_word {word : List Char} (isWord : IsWordText word) (before after : List Char) :
    dropSign (before ++ (word ++ after)) = dropSign before ++ (word ++ after) := by
  cases before with
  | cons c before =>
      rw [List.cons_append, dropSign, dropSign]
      split <;> rfl
  | nil =>
      rcases isWord with ⟨filled, continues⟩
      cases word with
      | nil => contradiction
      | cons d word =>
          have noSign : ¬ (d = '-' ∨ d = '+') := by
            have here := continues d List.mem_cons_self
            rintro (rfl | rfl)
            · exact absurd here (by decide)
            · exact absurd here (by decide)
          rw [List.nil_append, List.cons_append, dropSign, if_neg noSign]
          rfl

/-- The part of a body in front of a word, where `before` stands in the construct. -/
def bodyStart (before : List Char) : List Char :=
  trimStart (dropSign before)

/-- The part of a body behind a word, where `after` stands in the construct. -/
def bodyEnd (after : List Char) : List Char :=
  trimEnd (dropSign after.reverse).reverse

/-- A word belongs to the body of its construct, and what is trimmed does not depend on it. -/
theorem bodyOf_word {word : List Char} (isWord : IsWordText word) (before after : List Char) :
    bodyOf (before ++ (word ++ after)) = bodyStart before ++ (word ++ bodyEnd after) := by
  have reversed : (dropSign before ++ (word ++ after)).reverse =
      after.reverse ++ (word.reverse ++ (dropSign before).reverse) := by simp
  have unsigned : (dropSign (dropSign (before ++ (word ++ after))).reverse).reverse =
      dropSign before ++ (word ++ (dropSign after.reverse).reverse) := by
    rw [dropSign_word isWord, reversed, dropSign_word isWord.reverse]
    simp
  rw [bodyOf, unsigned, trim, trimStart_word isWord, trimEnd_word isWord]
  rfl

/-- A word behind the name of a tag belongs to its argument. -/
theorem tagArgument_word {word : List Char} (isWord : IsWordText word) {before : List Char}
    (behindName : before.dropWhile continuesTagName ≠ []) (after : List Char) :
    tagName (before ++ (word ++ after)) = tagName before ∧
      tagArgument (before ++ (word ++ after)) =
        trimStart (before.dropWhile continuesTagName) ++ (word ++ trimEnd after) := by
  have shorter : (before.takeWhile continuesTagName).length ≠ before.length := by
    intro same
    have whole := (List.takeWhile_prefix continuesTagName).eq_of_length same
    exact behindName (List.dropWhile_eq_nil_iff.mpr (List.takeWhile_eq_self_iff.mp whole))
  constructor
  · rw [tagName, tagName, List.takeWhile_append, if_neg shorter]
  · rw [tagArgument, List.dropWhile_append, if_neg (by simpa using behindName), trim,
      trimStart_word isWord, trimEnd_word isWord]

theorem IsIdentifier.isWordText {name : String} (identifier : IsIdentifier name) :
    IsWordText name.toList :=
  ⟨identifier.toList_ne_nil, identifier.continuesWord_of_mem⟩

end Lineage.Template
