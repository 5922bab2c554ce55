import Lineage.Proofs.PieceReplacement
import Lineage.Proofs.Words
import Lineage.Samples

/-!
# Tags of which only the word is read

An `else` tag, and a tag that ends a structure other than a block, says all that it says with its
word.  What stands behind the word is not read, and not refused either: another text in its place,
or none, leaves the outcome as it is (`Node.ofTemplate_eq_of_respelled`).  Only the line breaks in
it count, for the lines of what follows.
-/

namespace Lineage.Template

open Lineage.Text

/-- The words of the tags that have no argument. -/
def bareWords : List String :=
  ["else", "endif", "endfor", "endmacro", "endcall", "endfilter", "endset", "endwith",
    "endautoescape"]

/-- What stands behind the word of such a tag has no part in its effects. -/
theorem Effect.ofTag_of_bareWord {body body' : List Char} (isBare : tagName body ∈ bareWords)
    (same : tagName body' = tagName body) : Effect.ofTag body' = Effect.ofTag body := by
  simp only [Effect.ofTag, same]
  generalize tagName body = word at isBare
  simp only [bareWords, List.mem_cons, List.not_mem_nil, or_false] at isBare
  rcases isBare with rfl | rfl | rfl | rfl | rfl | rfl | rfl | rfl | rfl
  all_goals rfl

/-! ## Pieces with another text behind the word -/

namespace Piece

/-- The second piece is the first one, or both are tags with the same word, one of those that have
no argument, and as many line breaks. -/
inductive Respelled : Piece → Piece → Prop
  | same (piece : Piece) : Respelled piece piece
  | bare {inner inner' : List Char} (isBare : tagName (bodyOf inner) ∈ bareWords)
      (sameWord : tagName (bodyOf inner') = tagName (bodyOf inner))
      (sameBreaks : lineBreaks inner' = lineBreaks inner)
      (isTag : Piece.first (Piece.tag inner').source = .ok (.tag inner', [])) :
      Respelled (.tag inner) (.tag inner')

/-- The piece without the text behind the word of a tag that has no argument. -/
def stripped : Piece → Piece
  | .tag inner =>
    let word := tagName (bodyOf inner)
    if word ∈ bareWords then
      .tag (' ' :: word.toList ++ (List.replicate (lineBreaks inner) '\n' ++ [' ']))
    else .tag inner
  | piece => piece

/-- If the piece is a tag that has no argument, nothing stands behind its word. -/
def HasNoArgument (piece : Piece) : Prop :=
  ∀ inner, piece = .tag inner → tagName (bodyOf inner) ∈ bareWords →
    tagArgument (bodyOf inner) = []

section Stripped

variable {word : String}

theorem isWord_of_bareWord (isBare : word ∈ bareWords) : IsWord word := by
  have all : ∀ bare ∈ bareWords, IsWord bare := by decide
  exact all word isBare

theorem bodyOf_stripped (isBare : word ∈ bareWords) (breaks : Nat) :
    bodyOf (' ' :: word.toList ++ (List.replicate breaks '\n' ++ [' '])) = word.toList := by
  have front (text : List Char) : dropSign (' ' :: text) = ' ' :: text := rfl
  have plain := IsPlain.ofWord (isWord_of_bareWord isBare)
  have blankFront : ∀ c ∈ [' '], isBlank c = true := List.forall_mem_singleton.mpr rfl
  have blankBack : ∀ c ∈ List.replicate breaks '\n' ++ [' '], isBlank c = true := by
    intro c member
    rcases List.mem_append.mp member with isBreak | isSpace
    · rw [List.eq_of_mem_replicate isBreak]
      decide
    · exact blankFront c isSpace
  have noSign : bodyOf (' ' :: word.toList ++ (List.replicate breaks '\n' ++ [' '])) =
      trim (' ' :: word.toList ++ (List.replicate breaks '\n' ++ [' '])) := by
    have back : (' ' :: word.toList ++ (List.replicate breaks '\n' ++ [' '])).reverse =
        ' ' :: (' ' :: word.toList ++ List.replicate breaks '\n').reverse := by
      simp
    rw [bodyOf, List.cons_append, front, ← List.cons_append, back, front, ← back,
      List.reverse_reverse]
  rw [noSign]
  exact trim_of_trimsTo ⟨plain.isTrimmed, [' '], _, blankFront, blankBack, rfl⟩

theorem tagName_bareWord (isBare : word ∈ bareWords) : tagName word.toList = word := by
  have all : ∀ bare ∈ bareWords, tagName bare.toList = bare := by decide
  exact all word isBare

theorem tagArgument_bareWord (isBare : word ∈ bareWords) : tagArgument word.toList = [] := by
  have all : ∀ bare ∈ bareWords, tagArgument bare.toList = [] := by decide
  exact all word isBare

theorem first_stripped (isBare : word ∈ bareWords) (breaks : Nat) :
    let inner := ' ' :: word.toList ++ (List.replicate breaks '\n' ++ [' '])
    Piece.first (Piece.tag inner).source = .ok (.tag inner, []) := by
  intro inner
  have isText : IsTagText (' ' :: word.toList ++ List.replicate breaks '\n') := by
    have all : ∀ bare ∈ bareWords, ∀ c ∈ ' ' :: bare.toList, ¬ IsQuote c ∧ c ≠ '%' := by
      simp [bareWords, IsQuote]
    apply isTagText_of_forall
    intro c member
    rcases List.mem_append.mp member with inWord | isBreak
    · exact all word isBare c inWord
    · rw [List.eq_of_mem_replicate isBreak]
      exact ⟨by simp [IsQuote], by decide⟩
  have notRaw : bodyOf inner ≠ "raw".toList := by
    have all : ∀ bare ∈ bareWords, bare.toList ≠ "raw".toList := by decide
    rw [bodyOf_stripped isBare]
    exact all word isBare
  have split : splitAtClosing '%' .start
      (' ' :: word.toList ++ List.replicate breaks '\n' ++ ' ' :: '%' :: '}' :: []) =
        .ok (' ' :: word.toList ++ List.replicate breaks '\n' ++ [' '], []) := by
    apply splitAtClosing_tagText isText (by simp)
    intro braces
    simp [splitAtClosing, Cursor.closes, Cursor.advance, Except.map, push]
  rw [← List.append_nil (Piece.tag inner).source, first_tag_iff]
  refine ⟨?_, notRaw⟩
  simpa [inner] using split

end Stripped

/-- To strip a piece is to respell it. -/
theorem respelled_stripped (piece : Piece) : piece.Respelled piece.stripped := by
  cases piece with
  | tag inner =>
      rw [stripped]
      split
      · rename_i isBare
        have isBody := bodyOf_stripped isBare (lineBreaks inner)
        refine .bare isBare ?_ ?_ (first_stripped isBare _)
        · rw [isBody, tagName_bareWord isBare]
        · have noBreak : List.count '\n' (tagName (bodyOf inner)).toList = 0 :=
            (IsPlain.ofWord (isWord_of_bareWord isBare)).lineBreaks_eq_zero
          simp [lineBreaks, noBreak]
      · exact .same _
  | _ => exact .same _

theorem hasNoArgument_stripped (piece : Piece) : piece.stripped.HasNoArgument := by
  intro inner isTag isBare
  cases piece with
  | tag found =>
      rw [stripped] at isTag
      split at isTag
      · rename_i wasBare
        cases isTag
        rw [bodyOf_stripped wasBare]
        exact tagArgument_bareWord wasBare
      · rename_i notBare
        cases isTag
        exact absurd isBare notBare
  | _ => cases isTag

namespace Respelled

variable {piece piece' : Piece} {pieces pieces' : List Piece}

theorem lineBreaks_eq (respelled : piece.Respelled piece') :
    lineBreaks piece'.source = lineBreaks piece.source := by
  cases respelled with
  | same => rfl
  | bare _ _ sameBreaks _ => rw [lineBreaks_tag, lineBreaks_tag, sameBreaks]

/-- The respelled piece is cut from the text as the first one was. -/
theorem all_respelled (respelled : piece.Respelled piece') {front back : List Piece} {line : Nat}
    (cut : Piece.all line ((front ++ piece :: back).flatMap Piece.source) =
      .ok (front ++ piece :: back)) :
    Piece.all line ((front ++ piece' :: back).flatMap Piece.source) =
      .ok (front ++ piece' :: back) := by
  cases respelled with
  | same => exact cut
  | @bare inner inner' _ _ _ isTag =>
      have isSource (inner : List Char) :
          (Piece.tag inner).source = ['{', '%'] ++ (inner ++ ['%', '}']) := by
        simp [Piece.source]
      apply all_replace (by decide) (isSource inner) (isSource inner') _ cut
      intro more _
      exact first_more isTag fun run isRun => by cases isRun

/-- A respelled template is cut into the respelled pieces. -/
theorem all_forall₂ (respelled : List.Forall₂ Respelled pieces pieces') {line : Nat}
    (front : List Piece)
    (cut : Piece.all line ((front ++ pieces).flatMap Piece.source) = .ok (front ++ pieces)) :
    Piece.all line ((front ++ pieces').flatMap Piece.source) = .ok (front ++ pieces') := by
  induction respelled generalizing front with
  | nil => exact cut
  | @cons piece piece' _ _ first _ ih =>
      have replaced := first.all_respelled cut
      rw [← List.singleton_append, ← List.append_assoc] at replaced ⊢
      exact ih (front ++ [piece']) replaced

/-- The segments of respelled pieces do the same. -/
theorem segments (respelled : List.Forall₂ Respelled pieces pieces') (line : Nat)
    (outline : Outline) :
    outline.segments (Segment.ofPieces line pieces') =
      outline.segments (Segment.ofPieces line pieces) := by
  induction respelled generalizing line outline with
  | nil => rfl
  | @cons piece piece' _ _ first _ ih =>
      have here : outline.segments (piece'.segment? line).toList =
          outline.segments (piece.segment? line).toList := by
        cases first with
        | same => rfl
        | bare isBare sameWord _ _ =>
            simp only [Piece.segment?, Option.toList_some, Outline.segments, List.foldlM_cons,
              Outline.segment, Effect.ofTag_of_bareWord isBare sameWord]
      simp only [Outline.segments] at here ih ⊢
      rw [Segment.ofPieces, Segment.ofPieces, List.foldlM_append, List.foldlM_append, here,
        first.lineBreaks_eq]
      congr 1
      funext after
      exact ih _ after

end Respelled

end Piece

/-! ## Templates with another text behind the word -/

/-- A template and a respelled one have the same nodes, or are refused for the same reason. -/
theorem Node.ofTemplate_eq_of_respelled {text : List Char} {pieces pieces' : List Piece}
    (cut : Piece.all 1 text = .ok pieces)
    (respelled : List.Forall₂ Piece.Respelled pieces pieces') :
    Node.ofTemplate (pieces'.flatMap Piece.source) = Node.ofTemplate text := by
  have cut' : Piece.all 1 (pieces'.flatMap Piece.source) = .ok pieces' := by
    rw [← pieces_source cut] at cut
    exact Piece.Respelled.all_forall₂ respelled [] cut
  simp only [Node.ofTemplate, Segment.ofTemplate, cut, cut', Except.map, bind, Except.bind,
    Piece.Respelled.segments respelled]

/-- What stands behind the word of an `else` tag, or of a tag that ends a structure other than a
block, is neither read nor refused.  A template has the same outcome with any other text there, and
with none. -/
theorem Parsed.ofTemplate_respelled {name : String} {text : List Char} {pieces : List Piece}
    (cut : Piece.all 1 text = .ok pieces) :
    (∀ pieces', List.Forall₂ Piece.Respelled pieces pieces' →
      Parsed.ofTemplate name (pieces'.flatMap Piece.source) = Parsed.ofTemplate name text) ∧
    Parsed.ofTemplate name ((pieces.map Piece.stripped).flatMap Piece.source) =
        Parsed.ofTemplate name text ∧
      ∀ piece ∈ pieces.map Piece.stripped, piece.HasNoArgument := by
  have same (pieces' : List Piece) (respelled : List.Forall₂ Piece.Respelled pieces pieces') :
      Parsed.ofTemplate name (pieces'.flatMap Piece.source) = Parsed.ofTemplate name text := by
    rw [Parsed.ofTemplate, Parsed.ofTemplate, Node.ofTemplate_eq_of_respelled cut respelled]
  have isStripped : List.Forall₂ Piece.Respelled pieces (pieces.map Piece.stripped) := by
    rw [List.forall₂_map_right_iff, List.forall₂_same]
    exact fun piece _ => piece.respelled_stripped
  refine ⟨same, same _ isStripped, ?_⟩
  intro piece member
  obtain ⟨found, _, rfl⟩ := List.mem_map.mp member
  exact found.hasNoArgument_stripped

/-- A branch written as `else if` is read as a plain `else`. -/
theorem Parsed.ofTemplate_respelled_elseIf :
    let text (branch ending : String) := (Sample.tag "if a" ++ Sample.output "x" ++
      Sample.tag branch ++ Sample.output "y" ++ Sample.tag ending).toList
    let pieces (branch ending : String) : List Piece :=
      [.tag " if a ".toList, .output " x ".toList, .tag (" " ++ branch ++ " ").toList,
        .output " y ".toList, .tag (" " ++ ending ++ " ").toList]
    let parsed : Parsed := ⟨"page", [.read "a" .conditional 1, .read "x" .bare 1,
      .read "y" .bare 1]⟩
    Piece.all 1 (text "else if b" "endif c") = .ok (pieces "else if b" "endif c") ∧
      Parsed.ofTemplate "page" (text "else" "endif") = .ok parsed ∧
      Parsed.ofTemplate "page" (text "else if b" "endif c") = .ok parsed := by
  intro text pieces parsed
  have cut : Piece.all 1 (text "else if b" "endif c") = .ok (pieces "else if b" "endif c") := by
    decide +kernel
  have accepted : Parsed.ofTemplate "page" (text "else" "endif") = .ok parsed := by
    decide +kernel
  have isStripped : ((pieces "else if b" "endif c").map Piece.stripped).flatMap Piece.source =
      text "else" "endif" := by decide +kernel
  have same : Parsed.ofTemplate "page" _ = Parsed.ofTemplate "page" _ :=
    (Parsed.ofTemplate_respelled cut).2.1
  rw [isStripped] at same
  exact ⟨cut, accepted, same.symm.trans accepted⟩

/-- A template is accepted with a text behind `else`. -/
theorem Parsed.ofTemplate_else_with_argument :
    let text := (Sample.tag "if a" ++ Sample.tag "else if b" ++ Sample.tag "endif").toList
    let tag : Segment := .tag "else if b".toList 1
    Segment.ofTemplate text = .ok [.tag "if a".toList 1, tag, .tag "endif".toList 1] ∧
      tagName "else if b".toList = "else" ∧ tagArgument "else if b".toList = "if b".toList ∧
      Parsed.ofTemplate "t" text = .ok ⟨"t", [.read "a" .conditional 1]⟩ := by
  decide +kernel

end Lineage.Template
