import Lineage.Proofs.Spans
import Mathlib.Data.List.Chain

/-!
# Segments that are written and cut again

A segment is written with its delimiters and one space on either side of its body.  The main result
says that segments written one after another are cut into the same segments, each on the line on
which it has been written, as long as every one of them is writable and no two runs of text meet.

What may stand in a body is said as a grammar (`IsOutputText`, `IsTagText`).  A text of the grammar
is read over from its first character to its last, whatever follows: quotes are closed where they
are opened, and the braces of an output claim one another, so that neither hides the end of the body
nor puts it earlier.
-/

namespace Lineage.Template

open Lineage.Text

/-! ## What may stand in a body -/

/-- A quotation mark. -/
def IsQuote (c : Char) : Prop :=
  c = '"' ∨ c = '\''

instance decidableIsQuote (c : Char) : Decidable (IsQuote c) :=
  inferInstanceAs (Decidable (c = '"' ∨ c = '\''))

/-- What may stand between two marks of a string literal: no such mark and no backslash, unless a
backslash stands before it. -/
inductive IsQuoted (mark : Char) : List Char → Prop
  | nil : IsQuoted mark []
  | cons {c : Char} {rest : List Char} (noMark : c ≠ mark) (noEscape : c ≠ '\\')
      (others : IsQuoted mark rest) : IsQuoted mark (c :: rest)
  | escape {c : Char} {rest : List Char} (others : IsQuoted mark rest) :
      IsQuoted mark ('\\' :: c :: rest)

/-- A text whose string literals are closed and whose braces outside of them are balanced. -/
inductive IsOutputText : List Char → Prop
  | nil : IsOutputText []
  | cons {c : Char} {rest : List Char} (noQuote : ¬ IsQuote c) (noOpening : c ≠ '{')
      (noClosing : c ≠ '}') (others : IsOutputText rest) : IsOutputText (c :: rest)
  | literal {mark : Char} {inner rest : List Char} (isQuote : IsQuote mark)
      (quoted : IsQuoted mark inner) (others : IsOutputText rest) :
      IsOutputText (mark :: inner ++ mark :: rest)
  | braces {inner rest : List Char} (balanced : IsOutputText inner) (others : IsOutputText rest) :
      IsOutputText ('{' :: inner ++ '}' :: rest)

/-- A text whose string literals are closed and that has no percent sign before a closing brace
outside of them. -/
inductive IsTagText : List Char → Prop
  | nil : IsTagText []
  | cons {c : Char} {rest : List Char} (noQuote : ¬ IsQuote c)
      (noEnd : ¬ (c = '%' ∧ rest.head? = some '}')) (others : IsTagText rest) :
      IsTagText (c :: rest)
  | literal {mark : Char} {inner rest : List Char} (isQuote : IsQuote mark)
      (quoted : IsQuoted mark inner) (others : IsTagText rest) :
      IsTagText (mark :: inner ++ mark :: rest)

/-- A text without quotation marks and percent signs may stand in a tag. -/
theorem isTagText_of_forall {text : List Char} (plain : ∀ c ∈ text, ¬ IsQuote c ∧ c ≠ '%') :
    IsTagText text := by
  induction text with
  | nil => exact .nil
  | cons c rest ih =>
      rcases List.forall_mem_cons.mp plain with ⟨⟨noQuote, noPercent⟩, others⟩
      exact .cons noQuote (fun ends => noPercent ends.1) (ih others)

/-! ## The state while a text is read -/

section State

variable {c mark : Char}

theorem IsQuote.ne_escape (isQuote : IsQuote mark) : mark ≠ '\\' := by
  rcases isQuote with rfl | rfl <;> decide

theorem advance_quote (isQuote : IsQuote mark) (braces : Nat) :
    (⟨.plain, braces⟩ : Cursor).advance mark = ⟨.quoted mark, braces⟩ := by
  rcases isQuote with rfl | rfl <;> rfl

/-- Without a quotation mark nothing but the number of open braces changes. -/
theorem exists_advance_plain (noQuote : ¬ IsQuote c) (braces : Nat) :
    ∃ depth, (⟨.plain, braces⟩ : Cursor).advance c = ⟨.plain, depth⟩ := by
  rw [IsQuote] at noQuote
  simp only [Cursor.advance, noQuote, if_false]
  split
  · exact ⟨_, rfl⟩
  · split
    · exact ⟨_, rfl⟩
    · exact ⟨_, rfl⟩

theorem advance_inside (noMark : c ≠ mark) (noEscape : c ≠ '\\') (braces : Nat) :
    (⟨.quoted mark, braces⟩ : Cursor).advance c = ⟨.quoted mark, braces⟩ := by
  simp [Cursor.advance, noMark, noEscape]

theorem advance_mark (isQuote : IsQuote mark) (braces : Nat) :
    (⟨.quoted mark, braces⟩ : Cursor).advance mark = ⟨.plain, braces⟩ := by
  simp [Cursor.advance, isQuote.ne_escape]

theorem advance_escape (mark : Char) (braces : Nat) :
    (⟨.quoted mark, braces⟩ : Cursor).advance '\\' = ⟨.escaped mark, braces⟩ :=
  rfl

theorem advance_escaped (c mark : Char) (braces : Nat) :
    (⟨.escaped mark, braces⟩ : Cursor).advance c = ⟨.quoted mark, braces⟩ :=
  rfl

end State

/-! ## Reading over a text -/

section Reading

variable {closer c mark : Char} {cursor : Cursor} {text rest inner behind : List Char}

/-- A character that does not end the body is read over. -/
theorem splitAtClosing_cons (goesOn : cursor.closes closer c rest = false)
    (found : splitAtClosing closer (cursor.advance c) rest = .ok (inner, behind)) :
    splitAtClosing closer cursor (c :: rest) = .ok (c :: inner, behind) := by
  rw [splitAtClosing, goesOn, found]
  rfl

theorem closes_eq_false_of_ne (other : c ≠ closer) : cursor.closes closer c rest = false := by
  simp [Cursor.closes, other]

theorem closes_eq_false_of_quoted (quoted : cursor.quoting ≠ .plain) :
    cursor.closes closer c rest = false := by
  simp [Cursor.closes, quoted]

theorem closes_eq_false_of_head (noBrace : rest.head? ≠ some '}') :
    cursor.closes closer c rest = false := by
  simp [Cursor.closes, noBrace]

/-- A string literal is read over from behind its first mark. -/
theorem splitAtClosing_quoted {braces : Nat} (quoted : IsQuoted mark text) (isQuote : IsQuote mark)
    (found : splitAtClosing closer ⟨.plain, braces⟩ rest = .ok (inner, behind)) :
    splitAtClosing closer ⟨.quoted mark, braces⟩ (text ++ mark :: rest) =
      .ok (text ++ mark :: inner, behind) := by
  induction quoted with
  | nil =>
      apply splitAtClosing_cons (closes_eq_false_of_quoted (by simp))
      rw [advance_mark isQuote]
      exact found
  | cons noMark noEscape others ih =>
      apply splitAtClosing_cons (closes_eq_false_of_quoted (by simp))
      rw [advance_inside noMark noEscape]
      exact ih
  | escape others ih =>
      apply splitAtClosing_cons (closes_eq_false_of_quoted (by simp))
      rw [advance_escape]
      apply splitAtClosing_cons (closes_eq_false_of_quoted (by simp))
      rw [advance_escaped]
      exact ih

/-- A string literal is read over. -/
theorem splitAtClosing_literal {braces : Nat} (quoted : IsQuoted mark text)
    (isQuote : IsQuote mark) (other : mark ≠ closer)
    (found : splitAtClosing closer ⟨.plain, braces⟩ rest = .ok (inner, behind)) :
    splitAtClosing closer ⟨.plain, braces⟩ (mark :: text ++ mark :: rest) =
      .ok (mark :: text ++ mark :: inner, behind) := by
  apply splitAtClosing_cons (closes_eq_false_of_ne other)
  rw [advance_quote isQuote]
  exact splitAtClosing_quoted quoted isQuote found

/-- The text of an output is read over at any depth of braces. -/
theorem splitAtClosing_outputText {braces : Nat} (isText : IsOutputText text)
    (found : splitAtClosing '}' ⟨.plain, braces⟩ rest = .ok (inner, behind)) :
    splitAtClosing '}' ⟨.plain, braces⟩ (text ++ rest) = .ok (text ++ inner, behind) := by
  induction isText generalizing braces rest inner with
  | nil => exact found
  | cons noQuote noOpening noClosing others ih =>
      apply splitAtClosing_cons (closes_eq_false_of_ne noClosing)
      rw [IsQuote] at noQuote
      simpa [Cursor.advance, noQuote, noOpening, noClosing] using ih found
  | literal isQuote quoted others ih =>
      rw [List.append_assoc, List.append_assoc]
      apply splitAtClosing_literal quoted isQuote _ (ih found)
      rcases isQuote with rfl | rfl <;> decide
  | braces balanced others ihInner ihRest =>
      rw [List.append_assoc, List.append_assoc]
      apply splitAtClosing_cons (closes_eq_false_of_ne (by decide))
      apply ihInner
      -- One brace is open, so that the next closing brace is the one that it claims.
      apply splitAtClosing_cons
      · simp [Cursor.closes]
      · simpa [Cursor.advance] using ihRest found

/-- The text of a tag is read over, and any braces in it are forgotten at its end. -/
theorem splitAtClosing_tagText {braces : Nat} (isText : IsTagText text)
    (noBrace : rest.head? ≠ some '}')
    (found : ∀ braces, splitAtClosing '%' ⟨.plain, braces⟩ rest = .ok (inner, behind)) :
    splitAtClosing '%' ⟨.plain, braces⟩ (text ++ rest) = .ok (text ++ inner, behind) := by
  induction isText generalizing braces with
  | nil => exact found braces
  | @cons c others noQuote noEnd _ ih =>
      apply splitAtClosing_cons
      · by_cases isEnd : c = '%'
        · apply closes_eq_false_of_head
          cases others with
          | nil => exact noBrace
          | cons next others => simpa [isEnd] using noEnd
        · exact closes_eq_false_of_ne isEnd
      · obtain ⟨depth, isPlain⟩ := exists_advance_plain noQuote braces
        rw [isPlain]
        exact ih
  | literal isQuote quoted others ih =>
      rw [List.append_assoc, List.append_assoc]
      apply splitAtClosing_literal quoted isQuote _ ih
      rcases isQuote with rfl | rfl <;> decide

/-- A comment ends at its closing delimiter if its text does not hold one. -/
theorem splitAtCommentEnd_spaced (noEnd : ¬ ['#', '}'] <:+: text) :
    splitAtCommentEnd (text ++ ' ' :: '#' :: '}' :: rest) = some (text ++ [' '], rest) := by
  induction text with
  | nil => simp [splitAtCommentEnd, push]
  | cons c text ih =>
      have goesOn : ¬ (c = '#' ∧ (text ++ ' ' :: '#' :: '}' :: rest).head? = some '}') := by
        rintro ⟨rfl, head⟩
        cases text with
        | nil => cases head
        | cons next text =>
            cases head
            exact noEnd ⟨[], text, rfl⟩
      have later : ¬ ['#', '}'] <:+: text := fun inside => noEnd (List.infix_cons inside)
      rw [List.cons_append, splitAtCommentEnd, if_neg goesOn, ih later]
      rfl

end Reading

/-! ## Written segments -/

/-- The two characters of a closing delimiter. -/
def Construct.closing : Construct → List Char
  | .output => ['}', '}']
  | .tag => ['%', '}']
  | .comment => ['#', '}']

/-- A construct with one space on either side of its body. -/
def Construct.write (construct : Construct) (body : List Char) : List Char :=
  construct.opening ++ (' ' :: body ++ [' ']) ++ construct.closing

/-- A segment with the delimiters of its construct. -/
def Segment.written : Segment → List Char
  | .text run _ => run
  | .output body _ => Construct.output.write body
  | .tag body _ => Construct.tag.write body
  | .comment body _ => Construct.comment.write body

/-- The segment on the given line. -/
def Segment.onLine (line : Nat) : Segment → Segment
  | .text run _ => .text run line
  | .output body _ => .output body line
  | .tag body _ => .tag body line
  | .comment body _ => .comment body line

/-- The segments on the lines on which they stand when they are written behind the characters
`before`. -/
def Segment.numbered (before : List Char) : List Segment → List Segment
  | [] => []
  | part :: parts => part.onLine (lineBehind before) :: numbered (before ++ part.written) parts

/-- A segment that is still told from what stands around it when it is written. -/
def Segment.IsWritable : Segment → Prop
  | .text run _ => run ≠ [] ∧ HasNoOpening run ∧ run.getLast? ≠ some '{'
  | .output body _ => IsTrimmed body ∧ IsOutputText body
  | .tag body _ => IsTrimmed body ∧ IsTagText body ∧ body ≠ "raw".toList
  | .comment body _ => IsTrimmed body ∧ ¬ ['#', '}'] <:+: body

/-- Whether the segment is a run of text. -/
def Segment.isText : Segment → Bool
  | .text _ _ => true
  | _ => false

/-- The piece that a written segment is. -/
def Segment.piece : Segment → Piece
  | .text run _ => .text run
  | .output body _ => .output (' ' :: body ++ [' '])
  | .tag body _ => .tag (' ' :: body ++ [' '])
  | .comment body _ => .comment (' ' :: body ++ [' '])

theorem Segment.source_piece (part : Segment) : part.piece.source = part.written := by
  cases part <;> simp [Segment.piece, Segment.written, Piece.source, Construct.write,
    Construct.opening, Construct.closing]

/-- The spaces around a body keep its own signs from being dropped. -/
theorem bodyOf_spaced {body : List Char} (trimmed : IsTrimmed body) :
    bodyOf (' ' :: body ++ [' ']) = body := by
  have front : dropSign (' ' :: body ++ [' ']) = ' ' :: body ++ [' '] := rfl
  have back : dropSign (' ' :: body ++ [' ']).reverse = (' ' :: body ++ [' ']).reverse := by
    rw [List.reverse_append]
    rfl
  rw [bodyOf, front, back, List.reverse_reverse]
  have blank : ∀ c ∈ [' '], isBlank c = true := List.forall_mem_singleton.mpr (by decide)
  exact trim_of_trimsTo ⟨trimmed, [' '], [' '], blank, blank, rfl⟩

theorem segment?_piece {part : Segment} (writable : part.IsWritable) (line : Nat) :
    part.piece.segment? line = some (part.onLine line) := by
  cases part with
  | text run _ => rfl
  | output body _ => simp only [Segment.piece, Piece.segment?, bodyOf_spaced writable.1]; rfl
  | tag body _ => simp only [Segment.piece, Piece.segment?, bodyOf_spaced writable.1]; rfl
  | comment body _ => simp only [Segment.piece, Piece.segment?, bodyOf_spaced writable.1]; rfl

/-- A written tag is the first piece of what it begins. -/
theorem first_tag_write {body more : List Char} (trimmed : IsTrimmed body)
    (isText : IsTagText body) (notRaw : body ≠ "raw".toList) :
    Piece.first (Construct.tag.write body ++ more) = .ok (.tag (' ' :: body ++ [' ']), more) := by
  have spaced : IsTagText (' ' :: body) := .cons (by simp [IsQuote]) (by simp) isText
  have split : splitAtClosing '%' .start ((' ' :: body) ++ ' ' :: '%' :: '}' :: more) =
      .ok (' ' :: body ++ [' '], more) := by
    apply splitAtClosing_tagText spaced (by simp)
    intro braces
    simp [splitAtClosing, Cursor.closes, Cursor.advance, Except.map, push]
  have whole : Construct.tag.write body ++ more =
      '{' :: '%' :: ((' ' :: body) ++ ' ' :: '%' :: '}' :: more) := by
    simp [Construct.write, Construct.opening, Construct.closing]
  have notRawBody : bodyOf (' ' :: body ++ [' ']) ≠ "raw".toList := by
    rwa [bodyOf_spaced trimmed]
  rw [whole, first_eq_ok_iff]
  exact .tag split notRawBody

theorem first_output_write {body more : List Char} (isText : IsOutputText body) :
    Piece.first (Construct.output.write body ++ more) =
      .ok (.output (' ' :: body ++ [' ']), more) := by
  have spaced : IsOutputText (' ' :: body) :=
    .cons (by simp [IsQuote]) (by decide) (by decide) isText
  have split : splitAtClosing '}' .start ((' ' :: body) ++ ' ' :: '}' :: '}' :: more) =
      .ok (' ' :: body ++ [' '], more) := by
    apply splitAtClosing_outputText spaced
    simp [splitAtClosing, Cursor.closes, Cursor.advance, Except.map, push]
  have whole : Construct.output.write body ++ more =
      '{' :: '{' :: ((' ' :: body) ++ ' ' :: '}' :: '}' :: more) := by
    simp [Construct.write, Construct.opening, Construct.closing]
  rw [whole, first_eq_ok_iff]
  exact .output split

theorem first_comment_write {body more : List Char} (noEnd : ¬ ['#', '}'] <:+: body) :
    Piece.first (Construct.comment.write body ++ more) =
      .ok (.comment (' ' :: body ++ [' ']), more) := by
  have spaced : ¬ ['#', '}'] <:+: ' ' :: body := by
    rw [List.infix_cons_iff]
    rintro (⟨_, here⟩ | later)
    · cases here
    · exact noEnd later
  have whole : Construct.comment.write body ++ more =
      '{' :: '#' :: ((' ' :: body) ++ ' ' :: '#' :: '}' :: more) := by
    simp [Construct.write, Construct.opening, Construct.closing]
  rw [whole, first_eq_ok_iff]
  exact .comment (splitAtCommentEnd_spaced spaced)

/-- A written segment is the first piece of what it begins.  Behind a run of text has to stand a
construct, or nothing. -/
theorem first_written {part : Segment} {more : List Char} (writable : part.IsWritable)
    (apart : part.isText = true → more = [] ∨ (opening? more).isSome = true) :
    Piece.first (part.written ++ more) = .ok (part.piece, more) := by
  cases part with
  | text run _ =>
      obtain ⟨filled, noOpening, noBrace⟩ := writable
      exact first_eq_text (splitAtOpening_append_eq noOpening noBrace (apart rfl)) filled
  | output body _ => exact first_output_write writable.2
  | tag body _ => exact first_tag_write writable.1 writable.2.1 writable.2.2
  | comment body _ => exact first_comment_write writable.2

theorem Segment.written_ne_nil {part : Segment} (writable : part.IsWritable) :
    part.written ≠ [] := by
  cases part with
  | text run _ => exact writable.1
  | _ => simp [Segment.written, Construct.write, Construct.opening]

/-- A segment that is no run of text begins with an opening delimiter. -/
theorem opening?_written {part : Segment} (noText : part.isText = false) (more : List Char) :
    (opening? (part.written ++ more)).isSome = true := by
  cases part with
  | text run _ => cases noText
  | _ => rfl

/-! ## All segments -/

/-- No two runs of text meet. -/
def TextsApart (parts : List Segment) : Prop :=
  parts.IsChain fun part next => ¬ (part.isText = true ∧ next.isText = true)

instance decidableTextsApart (parts : List Segment) : Decidable (TextsApart parts) :=
  inferInstanceAs (Decidable (List.IsChain _ parts))

theorem all_written {parts : List Segment} (line : Nat)
    (writable : ∀ part ∈ parts, part.IsWritable) (apart : TextsApart parts) :
    Piece.all line (parts.flatMap Segment.written) = .ok (parts.map Segment.piece) := by
  induction parts generalizing line with
  | nil => rw [List.flatMap_nil, Piece.all]; rfl
  | cons part parts ih =>
      have writableHere := writable part List.mem_cons_self
      rw [List.map_cons, all_eq_ok_cons_iff]
      refine ⟨?_, parts.flatMap Segment.written, ?_, ?_⟩
      · rw [List.flatMap_cons]
        exact List.append_ne_nil_of_left_ne_nil (Segment.written_ne_nil writableHere) _
      · rw [List.flatMap_cons]
        apply first_written writableHere
        intro isText
        cases parts with
        | nil => exact Or.inl rfl
        | cons next parts =>
            have noText : next.isText = false := by
              have meets := (List.isChain_cons_cons.mp apart).1
              simpa [isText] using meets
            right
            rw [List.flatMap_cons]
            exact opening?_written noText _
      · apply ih _ _ (List.IsChain.tail apart)
        exact fun other member => writable other (List.mem_cons_of_mem _ member)

theorem ofPieces_map_piece {parts : List Segment} (before : List Char)
    (writable : ∀ part ∈ parts, part.IsWritable) :
    Segment.ofPieces (lineBehind before) (parts.map Segment.piece) =
      Segment.numbered before parts := by
  induction parts generalizing before with
  | nil => rfl
  | cons part parts ih =>
      have others : ∀ other ∈ parts, other.IsWritable := fun other member =>
        writable other (List.mem_cons_of_mem _ member)
      rw [List.map_cons, Segment.ofPieces, Segment.numbered, Segment.source_piece,
        segment?_piece (writable part List.mem_cons_self), ← lineBehind_append, ih _ others]
      rfl

/-- Cutting undoes writing: writable segments, of which no two runs of text meet, are cut from what
they are written as, and each on the line on which it has been written. -/
theorem Segment.ofTemplate_written {parts : List Segment}
    (writable : ∀ part ∈ parts, part.IsWritable) (apart : TextsApart parts) :
    Segment.ofTemplate (parts.flatMap Segment.written) = .ok (Segment.numbered [] parts) := by
  rw [Segment.ofTemplate, all_written 1 writable apart]
  exact congrArg Except.ok (ofPieces_map_piece [] writable)

/-- Closing delimiters in string literals, an escaped quote, nested braces, a brace that is never
closed and a sign at the start of a body. -/
theorem Segment.ofTemplate_written_delimiters :
    let parts := [.text "a\x7d\n".toList 0, .output "-x~'\x7d\x7d\\''\x7b\x7b\x7d\x7d".toList 0,
      .tag "set b = '%\x7d'\x7b".toList 0, .comment "%\x7d\n-".toList 0, .text "\x7d".toList 0]
    (∀ part ∈ parts, part.IsWritable) ∧ TextsApart parts ∧
      Segment.ofTemplate (parts.flatMap Segment.written) = .ok
        [.text "a\x7d\n".toList 1, .output "-x~'\x7d\x7d\\''\x7b\x7b\x7d\x7d".toList 2,
          .tag "set b = '%\x7d'\x7b".toList 2, .comment "%\x7d\n-".toList 2,
          .text "\x7d".toList 3] := by
  intro parts
  have quoted : IsQuoted '\'' "\x7d\x7d\\'".toList :=
    .cons (by decide) (by decide) (.cons (by decide) (by decide) (.escape .nil))
  have output : IsOutputText "-x~'\x7d\x7d\\''\x7b\x7b\x7d\x7d".toList := by
    apply IsOutputText.cons (by decide) (by decide) (by decide)
    apply IsOutputText.cons (by decide) (by decide) (by decide)
    apply IsOutputText.cons (by decide) (by decide) (by decide)
    exact .literal (by decide) quoted (.braces (.braces .nil .nil) .nil)
  have closer : IsQuoted '\'' "%\x7d".toList :=
    .cons (by decide) (by decide) (.cons (by decide) (by decide) .nil)
  have literal : IsTagText "'%\x7d'\x7b".toList :=
    .literal (by decide) closer (.cons (by decide) (by decide) .nil)
  have tag : IsTagText "set b = '%\x7d'\x7b".toList := by
    iterate 8 apply IsTagText.cons (by decide) (by decide)
    exact literal
  have writable : ∀ part ∈ parts, part.IsWritable := by
    intro part member
    simp only [parts, List.mem_cons, List.not_mem_nil, or_false] at member
    rcases member with rfl | rfl | rfl | rfl | rfl
    · exact ⟨by decide, hasNoOpening_splitAtOpening "a\x7d\n".toList, by decide⟩
    · exact ⟨by decide, output⟩
    · exact ⟨by decide, tag, by decide⟩
    · exact ⟨by decide, by decide⟩
    · exact ⟨by decide, hasNoOpening_splitAtOpening "\x7d".toList, by decide⟩
  have apart : TextsApart parts := by decide
  exact ⟨writable, apart, Segment.ofTemplate_written writable apart⟩

end Lineage.Template
