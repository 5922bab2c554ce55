import Lineage.Proofs.BytewiseReads
import Lineage.Proofs.Parents
import Lineage.Proofs.WordReplacement

/-!
# Where the tokens of an expression stand

The tokens of an expression stand in order and apart, each between two characters of the text, and
the bytes outside of them separate tokens (`tokensFrom_areSpans`).  A word and an operator reach as
far as they can, and a literal ends at the first mark that no backslash escapes.
-/

namespace Lineage.Bytewise

open Lineage.Text Lineage.Template

/-- An identifier in front of a text that does not go on with it. -/
def IsWholeWord (text behind : List Char) : Prop :=
  IsIdentifier (String.ofList text) ∧ ∀ c ∈ behind.head?, continuesWord c = false

/-- A string literal that ends with the mark with which it begins, which no backslash escapes. -/
def IsLiteralText (text : List Char) : Prop :=
  ∃ mark inner, IsQuote mark ∧ IsQuoted mark inner ∧ text = mark :: inner ++ [mark]

/-- An operator that is no part of a longer one at the same place. -/
def IsWholeOperator (text behind : List Char) : Prop :=
  ∀ sign ∈ pairOperators, sign.toList <+: text ++ behind → text = sign.toList

/-- Where the tokens of a text stand, and what each class of them is. -/
structure AreSpans (text : List Char) (tokens : List PlacedToken) : Prop where
  apart : tokens.Pairwise fun first second => first.stop ≤ second.start
  filled : ∀ token ∈ tokens, token.start < token.stop
  /-- A token is the slice between its positions, which therefore cut no character. -/
  slices : ∀ token ∈ tokens, slice? text token.start token.stop = some token.text
  /-- A byte that belongs to no token is a separator. -/
  separated : ∀ (position : Nat) (byte : UInt8), (bytes text)[position]? = some byte →
    (∀ token ∈ tokens, position < token.start ∨ token.stop ≤ position) → separates byte = true
  words : ∀ token ∈ tokens, token.kind = .word → ∃ behind,
    slice? text token.stop (byteLength text) = some behind ∧ IsWholeWord token.text behind
  literals : ∀ token ∈ tokens, token.kind = .literal → IsLiteralText token.text
  operators : ∀ token ∈ tokens, token.kind = .operator → ∃ behind,
    slice? text token.stop (byteLength text) = some behind ∧ IsWholeOperator token.text behind

/-! ## One token -/

section Lexemes

variable {c : Char} {rest after : List Char} {sign : String}

/-- Two operators of two characters that begin a text are the same. -/
theorem eq_of_pairOperators {text : List Char} {other : String} (isPair : sign ∈ pairOperators)
    (isOther : other ∈ pairOperators) (begins : sign.toList <+: text)
    (otherBegins : other.toList <+: text) : sign = other := by
  obtain ⟨d, e, isSign⟩ := length_pairOperators sign isPair
  obtain ⟨f, g, isOtherSign⟩ := length_pairOperators other isOther
  have size : sign.toList.length = other.toList.length := by rw [isSign, isOtherSign]; rfl
  have same := List.prefix_of_prefix_length_le begins otherBegins (Nat.le_of_eq size)
  exact String.toList_inj.mp (same.eq_of_length size)

/-- An operator is read as one of two characters wherever it can be. -/
theorem isWholeOperator_of_read (read : Lexeme.read c rest = .ok (.operator sign, after)) :
    IsWholeOperator sign.toList after := by
  have whole : sign.toList ++ after = c :: rest := read_source read
  intro other isPair begins
  rw [whole] at begins
  have found : ∃ first, pairOperator? c rest = some first := by
    rw [← find?_pairOperators, ← Option.isSome_iff_exists, List.find?_isSome]
    exact ⟨other, isPair, List.isPrefixOf_iff_prefix.mpr begins⟩
  obtain ⟨first, isFirst⟩ := found
  have firstBegins : first.toList <+: c :: rest :=
    ⟨rest.tail, pairOperator?_append isFirst⟩
  have isSign : sign = first := by
    cases read_eq_ok_iff.mp read with
    | pair _ found => exact Option.some.inj (found.symm.trans isFirst)
    | single _ noPair _ => cases noPair.symm.trans isFirst
  rw [isSign, eq_of_pairOperators (mem_of_pairOperator? isFirst) isPair firstBegins begins]

end Lexemes

/-- The positions of a token are those of its text. -/
theorem place_of_read {before rest after : List Char} {c : Char} (token : Token)
    (isStart : token.start = before.length)
    (read : Lexeme.read c rest = .ok (token.lexeme, after)) :
    place (before ++ c :: rest) token = ⟨kindOf token.lexeme, token.lexeme.source,
      byteLength before, byteLength (before ++ token.lexeme.source)⟩ := by
  have whole : before ++ c :: rest = (before ++ token.lexeme.source) ++ after := by
    rw [List.append_assoc, read_source read]
  rw [place, isStart, List.take_left, Token.stop, isStart, whole, ← List.length_append,
    List.take_left]

/-- A token stands between the text in front of it and the text behind it, and is read there. -/
theorem exists_place {text : List Char} {tokens : List Token} {token : Token}
    (reads : Token.Reads 0 text tokens) (member : token ∈ tokens) : ∃ before c rest after,
      text = before ++ (token.lexeme.source ++ after) ∧
        Lexeme.read c rest = .ok (token.lexeme, after) ∧
        place text token = ⟨kindOf token.lexeme, token.lexeme.source, byteLength before,
          byteLength (before ++ token.lexeme.source)⟩ := by
  obtain ⟨first, others, rfl⟩ := List.append_of_mem member
  obtain ⟨front, behind, rfl, readsBehind⟩ := reads.exists_behind
  obtain ⟨gap, c, rest, after, rfl, _, isStart, read, _⟩ := readsBehind.exists_cons
  have isBefore : token.start = (front ++ gap).length := by
    rw [isStart, List.length_append, Nat.zero_add]
  refine ⟨front ++ gap, c, rest, after, ?_, read, ?_⟩
  · rw [read_source read, List.append_assoc]
  · rw [← List.append_assoc]
    exact place_of_read token isBefore read

/-! ## All tokens -/

/-- The bytes of a text that are read behind another one belong to tokens or separate them. -/
theorem separates_of_reads {start : Nat} {text : List Char} {tokens : List Token}
    (reads : Token.Reads start text tokens) {before : List Char} (isStart : before.length = start)
    {position : Nat} {byte : UInt8} (here : (bytes (before ++ text))[position]? = some byte)
    (behind : byteLength before ≤ position)
    (outside : ∀ token ∈ tokens, position < (place (before ++ text) token).start ∨
      (place (before ++ text) token).stop ≤ position) : separates byte = true := by
  induction reads generalizing before with
  | nil start =>
      have inside := (List.getElem?_eq_some_iff.mp here).1
      rw [List.append_nil, length_bytes] at inside
      omega
  | @separator start c rest tokens isSeparator _ ih =>
      have whole : before ++ c :: rest = (before ++ [c]) ++ rest := by simp
      by_cases inside : position < byteLength before + c.utf8Size
      · obtain ⟨offset, rfl⟩ := Nat.exists_eq_add_of_le behind
        obtain ⟨other, isByte, isHere⟩ :=
          exists_getElem?_bytes before rest (Nat.lt_of_add_lt_add_left inside)
        cases here.symm.trans isHere
        exact (agrees_separates c byte isByte).trans isSeparator
      · rw [whole] at here outside
        refine ih ?_ here ?_ outside
        · rw [List.length_append, List.length_singleton, isStart]
        · rw [byteLength_snoc]
          omega
  | @lexeme start c rest after lexeme tokens _ read _ ih =>
      have whole : before ++ c :: rest = (before ++ lexeme.source) ++ after := by
        rw [List.append_assoc, read_source read]
      rw [List.forall_mem_cons] at outside
      have isPlaced := place_of_read ⟨lexeme, start⟩ isStart.symm read
      rw [isPlaced] at outside
      dsimp only at outside
      rw [whole] at here outside
      refine ih ?_ here ?_ outside.2
      · rw [List.length_append, isStart]
      · omega

theorem byteLength_take_mono (source : List Char) {m n : Nat} (ordered : m ≤ n) :
    byteLength (source.take m) ≤ byteLength (source.take n) := by
  rw [← take_append_slice source ordered, byteLength_append]
  exact Nat.le_add_right _ _

/-- What holds of every token where it is read holds of all tokens. -/
theorem forall_place {text : List Char} {tokens : List Token} {P : PlacedToken → Prop}
    (reads : Token.Reads 0 text tokens)
    (holds : ∀ (lexeme : Lexeme) (before : List Char) (c : Char) (rest after : List Char),
      text = before ++ (lexeme.source ++ after) → Lexeme.read c rest = .ok (lexeme, after) →
        P ⟨kindOf lexeme, lexeme.source, byteLength before,
          byteLength (before ++ lexeme.source)⟩) :
    ∀ token ∈ tokens.map (place text), P token := by
  rw [List.forall_mem_map]
  intro token member
  obtain ⟨before, c, rest, after, whole, read, isPlaced⟩ := exists_place reads member
  rw [isPlaced]
  exact holds token.lexeme before c rest after whole read

theorem slice?_behind {text before source after : List Char}
    (whole : text = before ++ (source ++ after)) :
    slice? text (byteLength (before ++ source)) (byteLength text) = some after := by
  rw [whole, ← List.append_assoc]
  exact slice?_rest _ after

theorem areSpans_place {text : List Char} {tokens : List Token}
    (reads : Token.Reads 0 text tokens) : AreSpans text (tokens.map (place text)) where
  apart := List.pairwise_map.mpr
    (reads.inOrder.apart.imp fun ordered => byteLength_take_mono text ordered)
  filled := by
    refine forall_place reads fun lexeme before c rest after _ read => ?_
    rw [byteLength_append]
    exact Nat.lt_add_of_pos_right (byteLength_pos (source_ne_nil read))
  slices := by
    refine forall_place reads fun lexeme before c rest after whole _ => ?_
    rw [byteLength_append, whole]
    exact slice?_append before lexeme.source after
  separated position byte here outside := by
    rw [List.forall_mem_map] at outside
    have isStart : ([] : List Char).length = 0 := rfl
    exact separates_of_reads reads isStart here (Nat.zero_le _) outside
  words := by
    refine forall_place reads fun lexeme before c rest after whole read isWord => ?_
    refine ⟨after, slice?_behind whole, ?_⟩
    cases lexeme with
    | word name =>
        obtain ⟨isName, ends⟩ := isIdentifier_of_read read
        exact ⟨by rwa [Lexeme.source, String.ofList_toList], ends⟩
    | _ => cases isWord
  literals := by
    refine forall_place reads fun lexeme before c rest after _ read isLiteral => ?_
    cases lexeme with
    | literal mark inner =>
        obtain ⟨isQuote, quoted⟩ := quoted_of_read read
        exact ⟨mark, inner, isQuote, quoted, rfl⟩
    | _ => cases isLiteral
  operators := by
    refine forall_place reads fun lexeme before c rest after whole read isOperator => ?_
    refine ⟨after, slice?_behind whole, ?_⟩
    cases lexeme with
    | operator sign => exact isWholeOperator_of_read read
    | _ => cases isOperator

/-- The tokens of an expression are spans of it. -/
theorem tokensFrom_areSpans {text : List Char} {tokens : List PlacedToken}
    (cut : tokensFrom text 0 = settled (.ok tokens)) : AreSpans text tokens := by
  have whole : tokensFrom text 0 = settled ((Token.all 0 text).map (List.map (place text))) :=
    tokensFrom_eq [] text
  rw [whole] at cut
  cases found : Token.all 0 text with
  | error cause =>
      rw [found] at cut
      cases cut
  | ok all =>
      rw [found] at cut
      cases cut
      exact areSpans_place (Token.all_eq_ok_iff.mp found)

/-- The spans of a word, an operator and a literal with a character of two bytes. -/
theorem tokensFrom_areSpans_accented :
    tokensFrom "n == 'é'".toList 0 = settled (.ok [⟨.word, ['n'], 0, 1⟩,
        ⟨.operator, ['=', '='], 2, 4⟩, ⟨.literal, ['\'', 'é', '\''], 5, 9⟩]) ∧
      AreSpans "n == 'é'".toList [⟨.word, ['n'], 0, 1⟩, ⟨.operator, ['=', '='], 2, 4⟩,
        ⟨.literal, ['\'', 'é', '\''], 5, 9⟩] := by
  have literal : Token.Reads 5 ['\'', 'é', '\''] [⟨.literal '\'' ['é'], 5⟩] :=
    .lexeme (by decide) rfl (.nil _)
  have behind : Token.Reads 2 ['=', '=', ' ', '\'', 'é', '\'']
      [⟨.operator "==", 2⟩, ⟨.literal '\'' ['é'], 5⟩] :=
    .lexeme (by decide) rfl (.separator rfl literal)
  have reads : Token.Reads 0 "n == 'é'".toList
      [⟨.word "n", 0⟩, ⟨.operator "==", 2⟩, ⟨.literal '\'' ['é'], 5⟩] :=
    .lexeme (by decide) rfl (.separator rfl behind)
  have cut : tokensFrom "n == 'é'".toList 0 = _ := tokensFrom_eq [] "n == 'é'".toList
  rw [List.length_nil, Token.all_eq_ok_iff.mpr reads] at cut
  exact ⟨cut, tokensFrom_areSpans cut⟩

end Lineage.Bytewise
