import Lineage.Proofs.BytewiseSpans
import Lineage.Proofs.PieceReplacement

/-!
# Quotes in a body and in its expression

The end of a body is looked for character by character, and what stands in quotes there is skipped.
Later the body, or what stands behind the word of a tag, is cut into tokens by positions in its
bytes.  Both take the same stretches for string literals (`ofTemplate_scansAlike`): no quotes stand
in what the expression leaves out of the body, nor in a token that is no literal.
-/

namespace Lineage.Template

open Lineage.Text

/-- The stretches in quotes of a text that is read in the state `cursor`, each from its first mark
to behind its last one.  The text begins at `position`, counted in bytes, and the stretch in which
it begins, if it does, at `opened`. -/
def Cursor.stretches (cursor : Cursor) (opened position : Nat) : List Char → List (Nat × Nat)
  | [] => []
  | c :: rest =>
    let next := cursor.advance c
    let behind := position + c.utf8Size
    if next.quoting = .plain then
      if cursor.quoting = .plain then next.stretches behind behind rest
      else (opened, behind) :: next.stretches behind behind rest
    else next.stretches opened behind rest

/-! ## Texts without quotes -/

section Plain

variable {c mark : Char} {text rest inner : List Char} {braces position opened : Nat}

/-- A text without quotes has no stretches, and is read to a plain state. -/
theorem stretches_append_of_noQuote (noQuote : ∀ c ∈ text, ¬ IsQuote c) (braces position : Nat) :
    ∃ depth, (∀ rest, Cursor.stretches ⟨.plain, braces⟩ position position (text ++ rest) =
        Cursor.stretches ⟨.plain, depth⟩ (position + byteLength text) (position + byteLength text)
          rest) ∧
      text.foldl Cursor.advance ⟨.plain, braces⟩ = ⟨.plain, depth⟩ := by
  induction text generalizing braces position with
  | nil => exact ⟨braces, fun rest => rfl, rfl⟩
  | cons c text ih =>
      rw [List.forall_mem_cons] at noQuote
      obtain ⟨next, isNext⟩ := exists_advance_plain noQuote.1 braces
      obtain ⟨depth, same, isEnd⟩ := ih noQuote.2 next (position + c.utf8Size)
      refine ⟨depth, fun rest => ?_, ?_⟩
      · rw [List.cons_append, Cursor.stretches, isNext]
        simp only [if_true]
        rw [same, byteLength, Nat.add_assoc]
      · rw [List.foldl_cons, isNext, isEnd]

end Plain

/-! ## Texts in quotes -/

/-- A state inside a string literal. -/
inductive Quoting.IsOpen : Quoting → Prop
  | quoted {mark : Char} (isQuote : IsQuote mark) : IsOpen (.quoted mark)
  | escaped {mark : Char} (isQuote : IsQuote mark) : IsOpen (.escaped mark)

section Quoted

variable {c mark : Char} {text rest inner : List Char} {cursor : Cursor}

/-- Without a quote an open literal stays open. -/
theorem isOpen_foldl_of_noQuote (isOpen : cursor.quoting.IsOpen)
    (noQuote : ∀ c ∈ text, ¬ IsQuote c) : (text.foldl Cursor.advance cursor).quoting.IsOpen := by
  induction text generalizing cursor with
  | nil => exact isOpen
  | cons c text ih =>
      rw [List.forall_mem_cons] at noQuote
      refine ih ?_ noQuote.2
      rcases cursor with ⟨quoting, braces⟩
      cases isOpen with
      | @quoted mark isQuote =>
          have other : c ≠ mark := fun same => noQuote.1 (same ▸ isQuote)
          by_cases isEscape : c = '\\'
          · rw [isEscape, advance_escape]
            exact .escaped isQuote
          · rw [advance_inside other isEscape]
            exact .quoted isQuote
      | @escaped mark isQuote => exact .quoted isQuote

/-- A literal that is not closed stays open to the end of the text. -/
theorem isOpen_of_splitLiteral? (isQuote : IsQuote mark) (open_ : splitLiteral? mark text = none)
    (braces : Nat) : (text.foldl Cursor.advance ⟨.quoted mark, braces⟩).quoting.IsOpen := by
  fun_induction splitLiteral? mark text with
  | case1 => exact .quoted isQuote
  | case2 => cases open_
  | case3 => exact .escaped isQuote
  | case4 d rest _ ih => exact ih (Option.map_eq_none_iff.mp open_)
  | case5 c rest other noEscape ih =>
      rw [List.foldl_cons, advance_inside other noEscape]
      exact ih (Option.map_eq_none_iff.mp open_)

/-- A literal is one stretch, from its first mark to behind its last one. -/
theorem stretches_quoted (quoted : IsQuoted mark inner) (isQuote : IsQuote mark)
    (braces opened position : Nat) (rest : List Char) :
    Cursor.stretches ⟨.quoted mark, braces⟩ opened position (inner ++ mark :: rest) =
      (opened, position + byteLength inner + mark.utf8Size) ::
        Cursor.stretches ⟨.plain, braces⟩ (position + byteLength inner + mark.utf8Size)
          (position + byteLength inner + mark.utf8Size) rest := by
  induction quoted generalizing position with
  | nil => simp [Cursor.stretches, advance_mark isQuote, byteLength]
  | @cons c inner noMark noEscape others ih =>
      rw [List.cons_append, Cursor.stretches, advance_inside noMark noEscape]
      simp only [reduceCtorEq, if_false]
      rw [ih, byteLength, Nat.add_assoc position]
  | @escape c inner others ih =>
      rw [List.cons_append, List.cons_append, Cursor.stretches, advance_escape]
      simp only [reduceCtorEq, if_false]
      rw [Cursor.stretches, advance_escaped]
      simp only [reduceCtorEq, if_false]
      rw [ih, byteLength, byteLength]
      simp only [Nat.add_assoc]

theorem foldl_quoted (quoted : IsQuoted mark inner) (isQuote : IsQuote mark) (braces : Nat) :
    (inner ++ [mark]).foldl Cursor.advance ⟨.quoted mark, braces⟩ = ⟨.plain, braces⟩ := by
  induction quoted with
  | nil => exact advance_mark isQuote braces
  | cons noMark noEscape others ih => simpa [advance_inside noMark noEscape] using ih
  | escape others ih => simpa [advance_escape, advance_escaped] using ih

/-- A literal is read over to a plain state. -/
theorem foldl_literal (quoted : IsQuoted mark inner) (isQuote : IsQuote mark) (braces : Nat) :
    (Lexeme.literal mark inner).source.foldl Cursor.advance ⟨.plain, braces⟩ =
      ⟨.plain, braces⟩ := by
  rw [Lexeme.source, List.cons_append, List.foldl_cons, advance_quote isQuote,
    foldl_quoted quoted isQuote]

/-- A literal is a stretch. -/
theorem stretches_literal (quoted : IsQuoted mark inner) (isQuote : IsQuote mark)
    (braces position : Nat) (rest : List Char) :
    Cursor.stretches ⟨.plain, braces⟩ position position
        ((Lexeme.literal mark inner).source ++ rest) =
      (position, position + byteLength (Lexeme.literal mark inner).source) ::
        Cursor.stretches ⟨.plain, braces⟩
          (position + byteLength (Lexeme.literal mark inner).source)
          (position + byteLength (Lexeme.literal mark inner).source) rest := by
  have source : (Lexeme.literal mark inner).source ++ rest = mark :: (inner ++ mark :: rest) := by
    simp [Lexeme.source]
  have size : byteLength (Lexeme.literal mark inner).source =
      mark.utf8Size + byteLength inner + mark.utf8Size := by
    simp [Lexeme.source, byteLength, byteLength_append, Nat.add_assoc]
  rw [source, size, Cursor.stretches, advance_quote isQuote]
  simp only [reduceCtorEq, if_false]
  rw [stretches_quoted quoted isQuote]
  simp only [Nat.add_assoc]

end Quoted

/-! ## Tokens -/

section Tokens

variable {c : Char} {rest after : List Char} {lexeme : Lexeme}

/-- Only a literal has quotes. -/
theorem noQuote_of_read (read : Lexeme.read c rest = .ok (lexeme, after))
    (other : ∀ mark inner, lexeme ≠ .literal mark inner) : ∀ d ∈ lexeme.source, ¬ IsQuote d := by
  rcases read_inert read with inert | ⟨mark, inner, isLiteral, _⟩ | rfl | rfl
  · exact fun d member => (inert d member).1
  · exact absurd isLiteral (other mark inner)
  · simp [Lexeme.source, IsQuote]
  · simp [Lexeme.source, IsQuote]

theorem noQuote_of_isSeparator (separates : isSeparator c = true) : ¬ IsQuote c := by
  rintro (rfl | rfl) <;> cases separates

/-- A literal that is not closed is the only reason why a lexeme has no end. -/
theorem unterminated_of_read (read : Lexeme.read c rest = .error .unterminatedString) :
    IsQuote c ∧ splitLiteral? c rest = none := by
  unfold Lexeme.read at read
  split at read
  · cases read
  · split at read
    · cases read
    · split at read
      · rename_i isQuote
        split at read
        · cases read
        · rename_i open_
          exact ⟨isQuote, open_⟩
      · split at read
        · cases read
        · split at read <;> cases read

/-- A lexeme is read over to a plain state. -/
theorem exists_foldl_lexeme (read : Lexeme.read c rest = .ok (lexeme, after)) (braces : Nat) :
    ∃ depth, lexeme.source.foldl Cursor.advance ⟨.plain, braces⟩ = ⟨.plain, depth⟩ := by
  by_cases isLiteral : ∃ mark inner, lexeme = .literal mark inner
  · obtain ⟨mark, inner, rfl⟩ := isLiteral
    obtain ⟨isQuote, quoted⟩ := quoted_of_read read
    exact ⟨braces, foldl_literal quoted isQuote braces⟩
  · have noQuote := noQuote_of_read read fun mark inner same => isLiteral ⟨mark, inner, same⟩
    obtain ⟨depth, -, isEnd⟩ := stretches_append_of_noQuote noQuote braces 0
    exact ⟨depth, isEnd⟩

/-- An expression with a literal that is not closed leaves it open at its end. -/
theorem isOpen_of_unterminated {start : Nat} {text : List Char}
    (unterminated : Token.all start text = .error .unterminatedString) (braces : Nat) :
    (text.foldl Cursor.advance ⟨.plain, braces⟩).quoting.IsOpen := by
  fun_induction Token.all start text generalizing braces with
  | case1 => cases unterminated
  | case2 start c rest separates ih =>
      obtain ⟨depth, isNext⟩ := exists_advance_plain (noQuote_of_isSeparator separates) braces
      rw [List.foldl_cons, isNext]
      exact ih unterminated depth
  | case3 start c rest filled cause read =>
      cases unterminated
      obtain ⟨isQuote, open_⟩ := unterminated_of_read read
      rw [List.foldl_cons, advance_quote isQuote]
      exact isOpen_of_splitLiteral? isQuote open_ braces
  | case4 start c rest filled lexeme after read shorter ih =>
      obtain ⟨depth, isNext⟩ := exists_foldl_lexeme read braces
      rw [← read_source read, List.foldl_append, isNext]
      exact ih (map_eq_error_iff.mp unterminated) depth

/-- Where the literals of the tokens stand, counted from `offset` bytes in front of the text. -/
def literalSpans (offset : Nat) (tokens : List Bytewise.PlacedToken) : List (Nat × Nat) :=
  (tokens.filter fun token => token.kind == .literal).map fun token =>
    (offset + token.start, offset + token.stop)

theorem literalSpans_cons (offset : Nat) (token : Bytewise.PlacedToken)
    (tokens : List Bytewise.PlacedToken) :
    literalSpans offset (token :: tokens) =
      literalSpans offset [token] ++ literalSpans offset tokens := by
  rw [← List.singleton_append, literalSpans, List.filter_append, List.map_append]
  rfl

/-- A token is a stretch if it is a literal, and has none otherwise. -/
theorem stretches_lexeme {before : List Char} (token : Token)
    (isStart : token.start = before.length) (read : Lexeme.read c rest = .ok (token.lexeme, after))
    (offset braces : Nat) : ∃ depth, ∀ behind,
      Cursor.stretches ⟨.plain, braces⟩ (offset + byteLength before) (offset + byteLength before)
          (token.lexeme.source ++ behind) =
        literalSpans offset [Bytewise.place (before ++ c :: rest) token] ++
          Cursor.stretches ⟨.plain, depth⟩ (offset + byteLength (before ++ token.lexeme.source))
            (offset + byteLength (before ++ token.lexeme.source)) behind := by
  rw [Bytewise.place_of_read token isStart read, byteLength_append, ← Nat.add_assoc]
  rcases token with ⟨lexeme, start⟩
  cases lexeme with
  | literal mark inner =>
      obtain ⟨isQuote, quoted⟩ := quoted_of_read read
      refine ⟨braces, fun behind => ?_⟩
      rw [stretches_literal quoted isQuote, Nat.add_assoc]
      rfl
  | _ =>
      have noQuote := noQuote_of_read read fun mark inner => by simp
      obtain ⟨depth, same, -⟩ := stretches_append_of_noQuote noQuote braces _
      exact ⟨depth, same⟩

/-- The literals of an expression are its stretches. -/
theorem stretches_of_reads {start : Nat} {text : List Char} {tokens : List Token}
    (reads : Token.Reads start text tokens) {before : List Char} (isStart : start = before.length)
    (offset braces : Nat) : ∃ depth, ∀ behind,
      Cursor.stretches ⟨.plain, braces⟩ (offset + byteLength before) (offset + byteLength before)
          (text ++ behind) =
        literalSpans offset (tokens.map (Bytewise.place (before ++ text))) ++
          Cursor.stretches ⟨.plain, depth⟩ (offset + byteLength (before ++ text))
            (offset + byteLength (before ++ text)) behind := by
  induction reads generalizing before braces with
  | nil start => exact ⟨braces, fun behind => by simp [literalSpans]⟩
  | @separator start c rest tokens separates _ ih =>
      have noQuote : ∀ d ∈ [c], ¬ IsQuote d :=
        List.forall_mem_singleton.mpr (noQuote_of_isSeparator separates)
      have isNext : start + 1 = (before ++ [c]).length := by simp [isStart]
      obtain ⟨next, same, -⟩ :=
        stretches_append_of_noQuote noQuote braces (offset + byteLength before)
      obtain ⟨depth, others⟩ := ih isNext next
      refine ⟨depth, fun behind => ?_⟩
      have whole : before ++ c :: rest = (before ++ [c]) ++ rest := by simp
      rw [whole, ← others behind, byteLength_append, ← Nat.add_assoc, ← same]
      rfl
  | @lexeme start c rest after lexeme tokens _ read _ ih =>
      have isNext : start + lexeme.source.length = (before ++ lexeme.source).length := by
        simp [isStart]
      obtain ⟨next, same⟩ := stretches_lexeme ⟨lexeme, start⟩ isStart read offset braces
      obtain ⟨depth, others⟩ := ih isNext next
      refine ⟨depth, fun behind => ?_⟩
      have whole : before ++ c :: rest = (before ++ lexeme.source) ++ after := by
        rw [List.append_assoc, read_source read]
      rw [whole] at same ⊢
      rw [List.map_cons, literalSpans_cons, List.append_assoc, ← others behind, ← same,
        ← List.append_assoc, read_source read]

end Tokens

/-! ## Bodies and expressions -/

/-- The expression is the text without something in front and something behind it, and these have no
quotes. -/
def KeepsQuotes (text expression : List Char) : Prop :=
  ∃ front behind, (∀ c ∈ front, ¬ IsQuote c) ∧ (∀ c ∈ behind, ¬ IsQuote c) ∧
    text = front ++ (expression ++ behind)

section Keeping

variable {text body expression : List Char}

theorem KeepsQuotes.trans (first : KeepsQuotes text body) (second : KeepsQuotes body expression) :
    KeepsQuotes text expression := by
  obtain ⟨front, behind, noFront, noBehind, rfl⟩ := first
  obtain ⟨inFront, inBehind, noInFront, noInBehind, rfl⟩ := second
  refine ⟨front ++ inFront, inBehind ++ behind, ?_, ?_, by simp⟩
  · exact List.forall_mem_append.mpr ⟨noFront, noInFront⟩
  · exact List.forall_mem_append.mpr ⟨noInBehind, noBehind⟩

theorem noQuote_of_isBlank {c : Char} (blank : isBlank c = true) : ¬ IsQuote c := by
  rintro (rfl | rfl) <;> cases blank

theorem noQuote_of_isSign {sign : List Char} (isSign : IsSign sign) : ∀ c ∈ sign, ¬ IsQuote c := by
  rcases isSign with rfl | rfl | rfl <;> simp [IsQuote]

theorem noQuote_of_continuesTagName {c : Char} (continues : continuesTagName c = true) :
    ¬ IsQuote c := by
  rintro (rfl | rfl) <;> cases continues

theorem keepsQuotes_of_trimsTo (trims : TrimsTo text body) : KeepsQuotes text body := by
  obtain ⟨-, before, after, areBefore, areAfter, rfl⟩ := trims
  refine ⟨before, after, fun c member => ?_, fun c member => ?_, by simp⟩
  · exact noQuote_of_isBlank (areBefore c member)
  · exact noQuote_of_isBlank (areAfter c member)

/-- Only signs and blanks are no part of a body. -/
theorem keepsQuotes_bodyOf (inner : List Char) : KeepsQuotes inner (bodyOf inner) := by
  obtain ⟨lead, core, trail, isLead, isTrail, whole, -, -, trims⟩ := isBodyOf_bodyOf inner
  have outer : KeepsQuotes inner core :=
    ⟨lead, trail, noQuote_of_isSign isLead, noQuote_of_isSign isTrail, by simp [whole]⟩
  exact outer.trans (keepsQuotes_of_trimsTo trims)

/-- The word of a tag has no quotes. -/
theorem keepsQuotes_tagArgument (body : List Char) : KeepsQuotes body (tagArgument body) := by
  have outer : KeepsQuotes body (body.dropWhile continuesTagName) := by
    refine ⟨body.takeWhile continuesTagName, [], fun c member => ?_, by simp, by simp⟩
    exact noQuote_of_continuesTagName (List.mem_takeWhile_imp member)
  exact outer.trans (keepsQuotes_of_trimsTo (trimsTo_trim _))

end Keeping

/-- The inside of an output or a tag ends outside quotes. -/
theorem plain_of_splitAtClosing {closer : Char} {cursor : Cursor} {text inner rest : List Char}
    (found : splitAtClosing closer cursor text = .ok (inner, rest)) :
    (inner.foldl Cursor.advance cursor).quoting = .plain := by
  induction text generalizing cursor inner with
  | nil => cases found
  | cons c tail ih =>
      rw [splitAtClosing] at found
      split at found
      · rename_i closes
        cases found
        simp only [Cursor.closes, Bool.and_eq_true, beq_iff_eq] at closes
        exact closes.1.1.1
      · obtain ⟨⟨before, behind⟩, later, isSplit⟩ := map_eq_ok_iff.mp found
        cases isSplit
        have plain := ih later
        exact plain

/-- The expression, which is cut from the inside of a construct, has no literal without an end, and
its literals are what stands in quotes there. -/
def ScansAlike (inner expression : List Char) : Prop :=
  Bytewise.tokensFrom expression 0 ≠ Bytewise.settled (.error .unterminatedString) ∧
    ∃ front behind, (∀ c ∈ front, ¬ IsQuote c) ∧ (∀ c ∈ behind, ¬ IsQuote c) ∧
      inner = front ++ (expression ++ behind) ∧
      ∀ tokens, Bytewise.tokensFrom expression 0 = Bytewise.settled (.ok tokens) →
        literalSpans (byteLength front) tokens = Cursor.start.stretches 0 0 inner

theorem scansAlike_of_keepsQuotes {inner expression : List Char}
    (keeps : KeepsQuotes inner expression)
    (plain : (inner.foldl Cursor.advance .start).quoting = .plain) :
    ScansAlike inner expression := by
  obtain ⟨front, behind, noFront, noBehind, rfl⟩ := keeps
  have whole : Bytewise.tokensFrom expression 0 =
      Bytewise.settled ((Token.all 0 expression).map (List.map (Bytewise.place expression))) :=
    Bytewise.tokensFrom_eq [] expression
  obtain ⟨braces, same, isFront⟩ := stretches_append_of_noQuote noFront 0 0
  refine ⟨fun unterminated => ?_, front, behind, noFront, noBehind, rfl, fun tokens cut => ?_⟩
  · cases found : Token.all 0 expression with
    | ok all =>
        rw [whole, found] at unterminated
        cases unterminated
    | error cause =>
        rw [whole, found] at unterminated
        cases unterminated
        have isOpen := isOpen_foldl_of_noQuote (isOpen_of_unterminated found braces) noBehind
        rw [List.foldl_append, List.foldl_append, Cursor.start, isFront] at plain
        rw [plain] at isOpen
        cases isOpen
  · cases found : Token.all 0 expression with
    | error cause =>
        rw [whole, found] at cut
        cases cut
    | ok all =>
        rw [whole, found] at cut
        cases cut
        have isStart : 0 = ([] : List Char).length := rfl
        obtain ⟨depth, literals⟩ :=
          stretches_of_reads (Token.all_eq_ok_iff.mp found) isStart (byteLength front) braces
        obtain ⟨last, none, -⟩ := stretches_append_of_noQuote noBehind depth
          (byteLength front + byteLength expression)
        have none := none []
        rw [List.append_nil, Cursor.stretches] at none
        rw [Cursor.start, same, Nat.zero_add]
        exact ((literals behind).trans (by rw [List.nil_append, none, List.append_nil])).symm

/-- The inside of an output or a tag of a template ends outside quotes. -/
theorem plain_of_all {line : Nat} {text : List Char} {pieces : List Piece}
    (cut : Piece.all line text = .ok pieces) {inner : List Char}
    (member : .output inner ∈ pieces ∨ .tag inner ∈ pieces) :
    (inner.foldl Cursor.advance .start).quoting = .plain := by
  induction pieces generalizing line text with
  | nil => simp at member
  | cons piece pieces ih =>
      obtain ⟨-, rest, isFirst, others⟩ := all_eq_ok_cons_iff.mp cut
      rw [← first_source isFirst] at isFirst
      rw [List.mem_cons, List.mem_cons] at member
      rcases member with (rfl | later) | (rfl | later)
      · exact plain_of_splitAtClosing (first_output_iff.mp isFirst)
      · exact ih others (.inl later)
      · exact plain_of_splitAtClosing (first_tag_iff.mp isFirst).1
      · exact ih others (.inr later)

/-- The expression of a segment is scanned like the inside of the piece that shows it. -/
def Segment.ScansAlike (piece : Piece) : Segment → Prop
  | .output body _ => ∃ inner, piece = .output inner ∧ Template.ScansAlike inner body
  | .tag body _ => ∃ inner, piece = .tag inner ∧ Template.ScansAlike inner (tagArgument body)
  | .text _ _ => True
  | .comment _ _ => True

/-- The expression of an output, and what stands behind the word of a tag, have no literal without
an end, and their literals are the stretches that were skipped in looking for the end of the
body. -/
theorem ofTemplate_scansAlike {template : List Char} {segments : List Segment}
    (cut : Segment.ofTemplate template = .ok segments) : ∃ pieces,
      Piece.all 1 template = .ok pieces ∧ Segment.ofPieces 1 pieces = segments ∧
        ∀ piece ∈ pieces, ∀ line part, piece.segment? line = some part →
          part.ScansAlike piece := by
  obtain ⟨pieces, found, isSegments⟩ := Segment.ofTemplate_eq_ok_iff.mp cut
  refine ⟨pieces, found, isSegments, fun piece member line part shown => ?_⟩
  cases piece with
  | output inner =>
      cases shown
      have plain := plain_of_all found (.inl member)
      exact ⟨inner, rfl, scansAlike_of_keepsQuotes (keepsQuotes_bodyOf inner) plain⟩
  | tag inner =>
      cases shown
      have plain := plain_of_all found (.inr member)
      have keeps := (keepsQuotes_bodyOf inner).trans (keepsQuotes_tagArgument _)
      exact ⟨inner, rfl, scansAlike_of_keepsQuotes keeps plain⟩
  | text run =>
      cases shown
      trivial
  | comment inner =>
      cases shown
      trivial
  | raw inner run ending =>
      rw [Piece.segment?] at shown
      split at shown
      · cases shown
      · cases shown
        trivial

/-- An output with an escaped character of two bytes and the other kind of mark in its literal, and
a tag with a closing delimiter in quotes. -/
theorem ofTemplate_scansAlike_accented :
    let inner := "- x ~ '\\é\\'\"' -".toList
    let condition := " if y == \"%\x7d\" ".toList
    let template := (Piece.output inner).source ++ (Piece.tag condition).source
    let segments := [.output "x ~ '\\é\\'\"'".toList 1, .tag "if y == \"%\x7d\"".toList 1]
    Segment.ofTemplate template = .ok segments ∧ ∃ pieces,
      Piece.all 1 template = .ok pieces ∧ Segment.ofPieces 1 pieces = segments ∧
        ∀ piece ∈ pieces, ∀ line part, piece.segment? line = some part →
          part.ScansAlike piece := by
  intro inner condition template segments
  have cut : Segment.ofTemplate template = .ok segments := by decide +kernel
  exact ⟨cut, ofTemplate_scansAlike cut⟩

end Lineage.Template
