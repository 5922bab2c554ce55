import Lineage.Proofs.Spans

/-!
# A piece in the place of another

How a piece is cut from the front of a text depends on little of what follows: a construct is cut
from its own characters (`first_elsewhere`), and a run of text from the two characters behind it
(`splitAtOpening_elsewhere`).  So a construct may be replaced by another with the same opening
delimiter, and the pieces around it stay (`all_replace`).
-/

namespace Lineage.Template

open Lineage.Text

/-! ## Pieces by themselves -/

/-- A character of the body does not end it. -/
theorem splitAtClosing_cons_iff {closer c : Char} {cursor : Cursor} {text inner rest : List Char} :
    splitAtClosing closer cursor (c :: text) = .ok (c :: inner, rest) ↔
      cursor.closes closer c text = false ∧
        splitAtClosing closer (cursor.advance c) text = .ok (inner, rest) := by
  rw [splitAtClosing]
  cases cursor.closes closer c text with
  | true => simp
  | false => simp [map_eq_ok_iff, push]

theorem splitAtClosing_alone {closer : Char} {cursor : Cursor} {inner more : List Char}
    (found : splitAtClosing closer cursor (inner ++ closer :: '}' :: more) = .ok (inner, more)) :
    splitAtClosing closer cursor (inner ++ [closer, '}']) = .ok (inner, []) := by
  induction inner generalizing cursor with
  | nil =>
      rw [List.nil_append, splitAtClosing] at found ⊢
      split at found
      · rename_i ends
        have still : cursor.closes closer closer ['}'] = true := ends
        rw [if_pos still]
        rfl
      · obtain ⟨parts, _, isParts⟩ := map_eq_ok_iff.mp found
        cases isParts
  | cons c inner ih =>
      have same : cursor.closes closer c (inner ++ [closer, '}']) =
          cursor.closes closer c (inner ++ closer :: '}' :: more) := by
        cases inner <;> rfl
      rw [List.cons_append, splitAtClosing_cons_iff] at found ⊢
      exact ⟨same.trans found.1, ih found.2⟩

theorem splitAtCommentEnd_alone {inner more : List Char}
    (found : splitAtCommentEnd (inner ++ '#' :: '}' :: more) = some (inner, more)) :
    splitAtCommentEnd (inner ++ ['#', '}']) = some (inner, []) := by
  induction inner with
  | nil => rfl
  | cons c inner ih =>
      have same : (inner ++ ['#', '}']).head? = (inner ++ '#' :: '}' :: more).head? := by
        cases inner <;> rfl
      rw [List.cons_append, splitAtCommentEnd, same]
      rw [List.cons_append, splitAtCommentEnd] at found
      split at found
      · cases found
      · rename_i goesOn
        obtain ⟨parts, split, isParts⟩ := Option.map_eq_some_iff.mp found
        cases isParts
        rw [if_neg goesOn, ih split]
        rfl

theorem splitAtEndRaw_alone {run ending more : List Char}
    (found : splitAtEndRaw (run ++ (ending ++ more)) = some (run, ending ++ more))
    (isEnd : IsEndRaw ending) : splitAtEndRaw (run ++ ending) = some (run, ending) := by
  have ends : (afterEndRaw? ending).isSome = true := by
    rw [afterEndRaw?_eq_some_iff.mpr ⟨ending, isEnd, (List.append_nil _).symm⟩]
    rfl
  induction run with
  | nil =>
      obtain ⟨body, rfl, _⟩ := isEnd.eq_cons
      rw [List.nil_append, splitAtEndRaw, if_pos ends]
  | cons c run ih =>
      rw [List.cons_append, splitAtEndRaw] at found ⊢
      split at found
      · cases found
      · rename_i notHere
        have still : ¬ (afterEndRaw? (c :: (run ++ ending))).isSome = true := by
          intro here
          obtain ⟨rest, isRest⟩ := Option.isSome_iff_exists.mp here
          have further := afterEndRaw?_append isRest more
          rw [List.cons_append, List.append_assoc] at further
          rw [further] at notHere
          exact notHere rfl
        obtain ⟨⟨front, behind⟩, split, isParts⟩ := Option.map_eq_some_iff.mp found
        rw [push, Prod.mk.injEq, List.cons.injEq] at isParts
        obtain ⟨⟨_, rfl⟩, rfl⟩ := isParts
        rw [if_neg still, ih split]
        rfl

section First

variable {inner run ending more : List Char}

theorem first_output_iff : Piece.first ((Piece.output inner).source ++ more) =
      .ok (.output inner, more) ↔
    splitAtClosing '}' .start (inner ++ '}' :: '}' :: more) = .ok (inner, more) := by
  have whole : (Piece.output inner).source ++ more =
      '{' :: '{' :: (inner ++ '}' :: '}' :: more) := by simp [Piece.source]
  rw [whole, first_eq_ok_iff]
  constructor
  · intro isFirst
    cases isFirst with
    | output cut => exact cut
  · exact .output

theorem first_comment_iff : Piece.first ((Piece.comment inner).source ++ more) =
      .ok (.comment inner, more) ↔
    splitAtCommentEnd (inner ++ '#' :: '}' :: more) = some (inner, more) := by
  have whole : (Piece.comment inner).source ++ more =
      '{' :: '#' :: (inner ++ '#' :: '}' :: more) := by simp [Piece.source]
  rw [whole, first_eq_ok_iff]
  constructor
  · intro isFirst
    cases isFirst with
    | comment cut => exact cut
  · exact .comment

theorem first_tag_iff : Piece.first ((Piece.tag inner).source ++ more) = .ok (.tag inner, more) ↔
    splitAtClosing '%' .start (inner ++ '%' :: '}' :: more) = .ok (inner, more) ∧
      bodyOf inner ≠ "raw".toList := by
  have whole : (Piece.tag inner).source ++ more =
      '{' :: '%' :: (inner ++ '%' :: '}' :: more) := by simp [Piece.source]
  rw [whole, first_eq_ok_iff]
  constructor
  · intro isFirst
    cases isFirst with
    | tag cut notRaw => exact ⟨cut, notRaw⟩
  · rintro ⟨cut, notRaw⟩
    exact .tag cut notRaw

/-- A construct is cut from its own characters. -/
theorem first_alone {piece : Piece} (noText : ∀ run, piece ≠ .text run)
    (found : Piece.first (piece.source ++ more) = .ok (piece, more)) :
    Piece.first piece.source = .ok (piece, []) := by
  rw [← List.append_nil piece.source]
  cases piece with
  | text run => exact absurd rfl (noText run)
  | output inner => exact first_output_iff.mpr (splitAtClosing_alone (first_output_iff.mp found))
  | comment inner =>
      exact first_comment_iff.mpr (splitAtCommentEnd_alone (first_comment_iff.mp found))
  | tag inner =>
      rcases first_tag_iff.mp found with ⟨split, notRaw⟩
      exact first_tag_iff.mpr ⟨splitAtClosing_alone split, notRaw⟩
  | raw inner run ending =>
      have whole (more : List Char) : (Piece.raw inner run ending).source ++ more =
          '{' :: '%' :: (inner ++ '%' :: '}' :: (run ++ (ending ++ more))) := by
        simp [Piece.source]
      rw [whole, first_eq_ok_iff] at found
      cases found with
      | raw cut isRaw split isEnd =>
          have isRest := (splitAtEndRaw_append split).1
          subst isRest
          have isTag := isEndRaw_of_ending isEnd
          have alone := splitAtClosing_more (splitAtClosing_alone cut) (run ++ ending)
          rw [List.append_assoc] at alone
          rw [whole, first_eq_ok_iff, List.append_nil]
          refine .raw alone isRaw ?_ (afterEndRaw?_eq_some_iff.mpr ⟨ending, isTag, rfl⟩)
          rw [List.append_nil]
          exact splitAtEndRaw_alone split isTag

end First

/-! ## Runs of text -/

/-- Where a run of text ends is told from the two characters behind it. -/
theorem splitAtOpening_elsewhere {run shared more more' : List Char} (long : 2 ≤ shared.length)
    (found : splitAtOpening (run ++ (shared ++ more)) = (run, shared ++ more)) :
    splitAtOpening (run ++ (shared ++ more')) = (run, shared ++ more') := by
  obtain ⟨first, second, shared, rfl⟩ : ∃ first second rest, shared = first :: second :: rest := by
    match shared, long with
    | first :: second :: rest, _ => exact ⟨first, second, rest, rfl⟩
  induction run with
  | nil =>
      rw [List.nil_append, List.cons_append, List.cons_append, splitAtOpening] at found ⊢
      rw [opening?_cons_cons first second (shared ++ more') (shared ++ more)]
      split at found
      · rename_i opens
        rw [if_pos opens]
      · rw [push] at found
        cases found
  | cons c run ih =>
      have same : opening? (c :: (run ++ (first :: second :: shared ++ more'))) =
          opening? (c :: (run ++ (first :: second :: shared ++ more))) := by
        cases run with
        | nil => exact opening?_cons_cons c first _ _
        | cons d run => exact opening?_cons_cons c d _ _
      rw [List.cons_append, splitAtOpening] at found ⊢
      rw [same]
      split at found
      · cases found
      · rename_i goesOn
        rw [push, Prod.mk.injEq, List.cons.injEq] at found
        rw [if_neg goesOn, ih (Prod.ext found.1.2 found.2)]
        rfl

theorem first_text {text run rest : List Char} (filled : text ≠ [])
    (found : Piece.first text = .ok (.text run, rest)) :
    splitAtOpening text = (run, rest) ∧ run ≠ [] := by
  cases first_eq_ok_iff.mp found with
  | text noOpening => exact ⟨rfl, splitAtOpening_fst_ne_nil noOpening filled⟩

/-! ## Replacements -/

/-- A piece is cut from a text as from another that is the same up to the second character behind
the piece. -/
theorem first_elsewhere {piece : Piece} {shared more more' : List Char} (long : 2 ≤ shared.length)
    (found : Piece.first (piece.source ++ (shared ++ more)) = .ok (piece, shared ++ more)) :
    Piece.first (piece.source ++ (shared ++ more')) = .ok (piece, shared ++ more') := by
  have filled : piece.source ++ (shared ++ more) ≠ [] := by
    intro none
    rw [(List.append_eq_nil_iff.mp (List.append_eq_nil_iff.mp none).2).1] at long
    exact absurd long (by decide)
  by_cases isText : ∃ run, piece = .text run
  · obtain ⟨run, rfl⟩ := isText
    rcases first_text filled found with ⟨split, runs⟩
    exact first_eq_text (splitAtOpening_elsewhere long split) runs
  · rw [not_exists] at isText
    have alone := first_alone isText found
    cases isSource : piece.source with
    | nil =>
        rw [isSource] at alone
        cases alone
        exact absurd rfl (isText [])
    | cons c tail =>
        rw [isSource] at alone
        exact first_more alone fun run isRun => absurd isRun (isText run)

/-- A construct may be replaced by another with the same opening delimiter that is a piece too. -/
theorem all_replace {line : Nat} {front back : List Piece} {piece piece' : Piece}
    {opening inner inner' : List Char} (long : 2 ≤ opening.length)
    (isSource : piece.source = opening ++ inner) (isSource' : piece'.source = opening ++ inner')
    (same : ∀ more, Piece.first (piece.source ++ more) = .ok (piece, more) →
      Piece.first (piece'.source ++ more) = .ok (piece', more))
    (cut : Piece.all line ((front ++ piece :: back).flatMap Piece.source) =
      .ok (front ++ piece :: back)) :
    Piece.all line ((front ++ piece' :: back).flatMap Piece.source) =
      .ok (front ++ piece' :: back) := by
  have filled : opening ≠ [] := by
    rintro rfl
    exact absurd long (by decide)
  induction front generalizing line with
  | nil =>
      rw [List.nil_append, List.flatMap_cons] at cut ⊢
      rcases all_eq_ok_cons_iff.mp cut with ⟨_, rest, isFirst, others⟩
      have isRest := List.append_cancel_left (first_source isFirst)
      subst isRest
      refine all_eq_ok_cons_iff.mpr ⟨?_, _, same _ isFirst, all_of_line others _⟩
      intro none
      rw [(List.append_eq_nil_iff.mp none).1, eq_comm, List.append_eq_nil_iff] at isSource'
      exact filled isSource'.1
  | cons first front ih =>
      rw [List.cons_append, List.flatMap_cons] at cut ⊢
      rcases all_eq_ok_cons_iff.mp cut with ⟨_, rest, isFirst, others⟩
      have isRest := List.append_cancel_left (first_source isFirst)
      subst isRest
      have kept := ih others
      have split (piece : Piece) (inner : List Char) (isSource : piece.source = opening ++ inner) :
          (front ++ piece :: back).flatMap Piece.source =
            (front.flatMap Piece.source ++ opening) ++ (inner ++ back.flatMap Piece.source) := by
        rw [List.flatMap_append, List.flatMap_cons, isSource]
        simp
      have longer : 2 ≤ (front.flatMap Piece.source ++ opening).length := by
        rw [List.length_append]
        omega
      rw [split piece inner isSource] at isFirst
      rw [split piece' inner' isSource'] at kept ⊢
      refine all_eq_ok_cons_iff.mpr ⟨?_, _, first_elsewhere longer isFirst, kept⟩
      intro none
      have noOpening := (List.append_eq_nil_iff.mp (List.append_eq_nil_iff.mp none).2).1
      exact filled (List.append_eq_nil_iff.mp noOpening).2

end Lineage.Template
