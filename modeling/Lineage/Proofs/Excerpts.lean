import Lineage.Proofs.Outcomes
import Lineage.Template.Reading

/-!
# Expressions inside longer ones

The text of an expression may stand inside a longer text, in which it begins and ends between two
lexemes, for instance with a space on either side.  Then its tokens are among those of the longer
text, only further on (`Token.Reads.append`, `Token.Reads.later`).
-/

namespace Lineage.Template

open Lineage.Text

/-! ## Tokens further on -/

/-- The token some characters further on. -/
def Token.later (distance : Nat) (token : Token) : Token :=
  { token with start := token.start + distance }

namespace Token

variable (distance : Nat) (token : Token)

@[simp]
theorem lexeme_later : (token.later distance).lexeme = token.lexeme :=
  rfl

@[simp]
theorem isSign_later (sign : String) : (token.later distance).isSign sign = token.isSign sign :=
  rfl

@[simp]
theorem isWord_later (name : String) : (token.later distance).isWord name = token.isWord name :=
  rfl

@[simp]
theorem word?_later : (token.later distance).word? = token.word? :=
  rfl

@[simp]
theorem opens?_later : (token.later distance).opens? = token.opens? :=
  rfl

@[simp]
theorem closes?_later : (token.later distance).closes? = token.closes? :=
  rfl

@[simp]
theorem depthAfter_later (depth : Nat) :
    (token.later distance).depthAfter depth = token.depthAfter depth :=
  rfl

theorem later_zero : Token.later 0 = id :=
  rfl

theorem start_later : (token.later distance).start = token.start + distance :=
  rfl

theorem stop_later : (token.later distance).stop = token.stop + distance :=
  Nat.add_right_comm _ _ _

end Token

/-! ## The tokens of a text -/

/-- The text, whose first character has the position `start`, is cut into the tokens. -/
inductive Token.Reads : (start : Nat) → (text : List Char) → (tokens : List Token) → Prop
  | nil (start : Nat) : Reads start [] []
  | separator {start : Nat} {c : Char} {rest : List Char} {tokens : List Token}
      (separates : isSeparator c = true) (others : Reads (start + 1) rest tokens) :
      Reads start (c :: rest) tokens
  | lexeme {start : Nat} {c : Char} {rest after : List Char} {lexeme : Lexeme}
      {tokens : List Token} (filled : isSeparator c = false)
      (read : Lexeme.read c rest = .ok (lexeme, after))
      (others : Reads (start + lexeme.source.length) after tokens) :
      Reads start (c :: rest) (⟨lexeme, start⟩ :: tokens)

theorem Token.all_eq_ok_iff {start : Nat} {text : List Char} {tokens : List Token} :
    Token.all start text = .ok tokens ↔ Token.Reads start text tokens := by
  constructor
  · intro cut
    induction start, text using Token.all.induct generalizing tokens with
    | case1 start =>
        rw [Token.all] at cut
        cases cut
        exact .nil start
    | case2 start c rest separates ih =>
        rw [Token.all, if_pos separates] at cut
        exact .separator separates (ih cut)
    | case3 start c rest filled cause refused =>
        rw [Token.all, if_neg filled] at cut
        split at cut
        · cases cut
        · rename_i found
          rw [refused] at found
          cases found
    | case4 start c rest filled lexeme after found _ ih =>
        rw [Token.all, if_neg filled] at cut
        split at cut
        · cases cut
        · rename_i same
          rw [found] at same
          cases same
          obtain ⟨others, more, rfl⟩ := map_eq_ok_iff.mp cut
          exact .lexeme (Bool.not_eq_true _ ▸ filled) found (ih more)
  · intro reads
    induction reads with
    | nil => rw [Token.all]
    | separator separates _ ih => rw [Token.all, if_pos separates, ih]
    | @lexeme start c rest after lexeme tokens filled read _ ih =>
        rw [Token.all, filled]
        simp only [Bool.false_eq_true, if_false]
        split
        · rename_i refused
          rw [read] at refused
          cases refused
        · rename_i found
          rw [read] at found
          cases found
          rw [ih]
          rfl

/-! ## Lexemes in front of other text -/

/-- No lexeme goes on in the text: the first character, if there is one, continues no word, no
number and no operator. -/
def EndsLexeme (more : List Char) : Prop :=
  ∀ c ∈ more.head?, continuesWord c = false ∧ continuesNumber c more.tail = false ∧
    (c == '+' || c == '-') = false ∧ ∀ sign ∈ pairOperators, sign.toList[1]? ≠ some c

theorem EndsLexeme.space (more : List Char) : EndsLexeme (' ' :: more) := by
  rintro c ⟨⟩
  exact ⟨by decide, rfl, rfl, by decide⟩

section Behind

variable {more : List Char}

theorem takeWhile_behind {p : Char → Bool} (stops : ∀ c ∈ more.head?, p c = false)
    (text : List Char) : (text ++ more).takeWhile p = text.takeWhile p := by
  induction text with
  | nil =>
      cases more with
      | nil => rfl
      | cons c more => simp [stops c rfl]
  | cons c text ih =>
      rw [List.cons_append, List.takeWhile_cons, List.takeWhile_cons, ih]

theorem dropWhile_behind {p : Char → Bool} (stops : ∀ c ∈ more.head?, p c = false)
    (text : List Char) : (text ++ more).dropWhile p = text.dropWhile p ++ more := by
  induction text with
  | nil =>
      cases more with
      | nil => rfl
      | cons c more => simp [stops c rfl]
  | cons c text ih =>
      rw [List.cons_append, List.dropWhile_cons, List.dropWhile_cons, ih]
      split <;> rfl

/-- Puts a text behind the second of two. -/
def behindRest (more : List Char) (split : List Char × List Char) : List Char × List Char :=
  (split.1, split.2 ++ more)

variable (ends : EndsLexeme more)
include ends

theorem EndsLexeme.isDigit : ∀ c ∈ more.head?, c.isDigit = false ∧ (c == '_') = false := by
  intro c isHead
  have noNumber := (ends c isHead).2.1
  simp only [continuesNumber, Bool.or_eq_false_iff] at noNumber
  exact noNumber.1

theorem splitDigits_behind (text : List Char) :
    splitDigits (text ++ more) = behindRest more (splitDigits text) := by
  induction text with
  | nil =>
      cases more with
      | nil => rfl
      | cons c more =>
          have stops : continuesNumber c more = false := (ends c rfl).2.1
          simp [splitDigits, behindRest, stops]
  | cons c text ih =>
      have same : continuesNumber c (text ++ more) = continuesNumber c text := by
        cases text with
        | nil =>
            cases more with
            | nil => rfl
            | cons d more => simp [continuesNumber, (ends.isDigit d rfl).1]
        | cons d text => rfl
      rw [List.cons_append, splitDigits, splitDigits, same, ih]
      split <;> rfl

theorem splitExponentDigits?_behind (text : List Char) :
    splitExponentDigits? (text ++ more) = (splitExponentDigits? text).map (behindRest more) := by
  cases text with
  | nil =>
      cases more with
      | nil => rfl
      | cons c more => simp [splitExponentDigits?, (ends.isDigit c rfl).1]
  | cons c text =>
      have stops : ∀ c ∈ more.head?, (c.isDigit || c == '_') = false := by
        intro d isHead
        rw [(ends.isDigit d isHead).1, (ends.isDigit d isHead).2, Bool.or_false]
      rw [List.cons_append, splitExponentDigits?, splitExponentDigits?]
      split
      · rw [takeWhile_behind stops, dropWhile_behind stops]
        rfl
      · rfl

theorem splitExponent?_behind (text : List Char) :
    splitExponent? (text ++ more) = (splitExponent? text).map (behindRest more) := by
  match text with
  | [] =>
      match more with
      | [] => rfl
      | [c] => rfl
      | c :: d :: more =>
          have noLetter : (c == 'e' || c == 'E') = false := by
            rw [← Bool.not_eq_true]
            intro isLetter
            have noWord := (ends c rfl).1
            rcases Bool.or_eq_true_iff.mp isLetter with same | same
            · rw [beq_iff_eq.mp same] at noWord
              exact absurd noWord (by decide)
            · rw [beq_iff_eq.mp same] at noWord
              exact absurd noWord (by decide)
          simp [splitExponent?, noLetter]
  | [letter] =>
      cases more with
      | nil => rfl
      | cons c more =>
          have noDigits : splitExponentDigits? (c :: more) = none := by
            simp [splitExponentDigits?, (ends.isDigit c rfl).1]
          have noSign := (ends c rfl).2.2.1
          simp only [List.cons_append, List.nil_append, splitExponent?, noSign, noDigits]
          split <;> rfl
  | letter :: sign :: rest =>
      have here := splitExponentDigits?_behind ends rest
      have there := splitExponentDigits?_behind ends (sign :: rest)
      rw [List.cons_append] at there
      simp only [List.cons_append, splitExponent?, here, there]
      split
      · split
        · cases splitExponentDigits? rest <;> rfl
        · cases splitExponentDigits? (sign :: rest) <;> rfl
      · rfl

theorem splitNumber_behind (text : List Char) :
    splitNumber (text ++ more) = behindRest more (splitNumber text) := by
  have rest : (behindRest more (splitDigits text)).2 = (splitDigits text).2 ++ more := rfl
  rw [splitNumber, splitNumber, splitDigits_behind ends, rest, splitExponent?_behind ends]
  cases splitExponent? (splitDigits text).2 <;> rfl

omit ends in
theorem splitLiteral?_append_right {mark : Char} {text inner after : List Char}
    (found : splitLiteral? mark text = some (inner, after)) :
    splitLiteral? mark (text ++ more) = some (inner, after ++ more) := by
  fun_induction splitLiteral? mark text generalizing inner after with
  | case1 => cases found
  | case2 rest =>
      cases found
      rw [List.cons_append, splitLiteral?.eq_def]
      simp
  | case3 => cases found
  | case4 d rest isEscape ih =>
      obtain ⟨⟨inner', after'⟩, found, same⟩ := Option.map_eq_some_iff.mp found
      cases same
      rw [List.cons_append, splitLiteral?.eq_def]
      simp [isEscape, ih found]
  | case5 c rest noMark noEscape ih =>
      obtain ⟨⟨inner', after'⟩, found, same⟩ := Option.map_eq_some_iff.mp found
      cases same
      rw [List.cons_append, splitLiteral?.eq_def]
      simp [noMark, noEscape, ih found]

theorem pairOperator?_behind (c : Char) (rest : List Char) :
    pairOperator? c (rest ++ more) = pairOperator? c rest := by
  cases rest with
  | nil =>
      cases more with
      | nil => rfl
      | cons d more =>
          have noPair : String.ofList [c, d] ∉ pairOperators := by
            intro member
            exact (ends d rfl).2.2.2 _ member (by rw [String.toList_ofList]; rfl)
          rw [List.nil_append, pairOperator?, pairOperator?, if_neg]
          rwa [List.contains_iff_mem]
  | cons d rest => rfl

/-- A lexeme is the same in front of a text in which it does not go on. -/
theorem read_behind {c : Char} {rest after : List Char} {lexeme : Lexeme}
    (read : Lexeme.read c rest = .ok (lexeme, after)) :
    Lexeme.read c (rest ++ more) = .ok (lexeme, after ++ more) := by
  have stops : ∀ c ∈ more.head?, continuesWord c = false := fun c isHead => (ends c isHead).1
  have splits : splitNumber (c :: (rest ++ more)) =
      behindRest more (splitNumber (c :: rest)) := splitNumber_behind ends (c :: rest)
  rw [read_eq_ok_iff]
  cases read_eq_ok_iff.mp read with
  | word starts =>
      have isWord : Lexeme.IsReadAt c (rest ++ more) _ _ := .word starts
      rwa [takeWhile_behind stops, dropWhile_behind stops] at isWord
  | number noWord isDigit =>
      have isNumber : Lexeme.IsReadAt c (rest ++ more) _ _ := .number noWord isDigit
      rwa [splits] at isNumber
  | literal noWord noDigit isQuote found =>
      exact .literal noWord noDigit isQuote (splitLiteral?_append_right found)
  | pair begins found =>
      cases rest with
      | nil => cases found
      | cons d rest => exact .pair begins ((pairOperator?_behind ends c _).trans found)
  | single begins noPair isSingle =>
      exact .single begins ((pairOperator?_behind ends c rest).trans noPair) isSingle

end Behind

/-- A text without tokens consists of separators. -/
theorem isSeparator_of_reads_nil {start : Nat} {text : List Char}
    (reads : Token.Reads start text []) : ∀ c ∈ text, isSeparator c = true := by
  generalize none : ([] : List Token) = tokens at reads
  induction reads with
  | nil => exact List.forall_mem_nil _
  | separator separates _ ih => exact List.forall_mem_cons.mpr ⟨separates, ih none⟩
  | lexeme => cases none

/-- A character that is an operator by itself, and begins no other, is a lexeme. -/
theorem read_sign {c : Char} (noWord : startsWord c = false) (noDigit : c.isDigit = false)
    (noQuote : ¬ (c = '"' ∨ c = '\'')) (single : singleOperators.contains c = true)
    (noPair : ∀ sign ∈ pairOperators, sign.toList[0]? ≠ some c) (rest : List Char) :
    Lexeme.read c rest = .ok (.operator (String.singleton c), rest) := by
  have none : pairOperator? c rest = none := by
    cases rest with
    | nil => rfl
    | cons d rest =>
        rw [pairOperator?, if_neg]
        rw [List.contains_iff_mem]
        intro member
        exact noPair _ member (by rw [String.toList_ofList]; rfl)
  exact read_eq_ok_iff.mpr (.single ⟨noWord, noDigit, noQuote⟩ none (List.contains_iff_mem.mp single))

namespace Token.Reads

variable {start : Nat} {text more : List Char} {tokens others : List Token}

/-- A text that begins further on has its tokens further on. -/
theorem later (reads : Reads start text tokens) (distance : Nat) :
    Reads (start + distance) text (tokens.map (Token.later distance)) := by
  induction reads with
  | nil => exact .nil _
  | @separator start c rest tokens separates _ ih =>
      rw [Nat.add_right_comm] at ih
      exact .separator separates ih
  | lexeme filled read _ ih =>
      rw [Nat.add_right_comm] at ih
      exact .lexeme filled read ih

/-- The tokens of two texts are those of the one and those of the other, if no lexeme of the one
goes on in the other. -/
theorem append (reads : Reads start text tokens) (ends : EndsLexeme more)
    (behind : Reads (start + text.length) more others) :
    Reads start (text ++ more) (tokens ++ others) := by
  induction reads with
  | nil => exact behind
  | @separator start c rest tokens separates _ ih =>
      apply Reads.separator separates
      apply ih
      rwa [List.length_cons, Nat.add_comm rest.length, ← Nat.add_assoc] at behind
  | @lexeme start c rest after lexeme tokens filled read _ ih =>
      have whole := congrArg List.length (read_source read)
      rw [List.length_append] at whole
      apply Reads.lexeme filled (read_behind ends read)
      apply ih
      rwa [← whole, ← Nat.add_assoc] at behind

/-- The tokens of two texts with a space in between are those of the one and those of the other. -/
theorem spaced (reads : Reads start text tokens)
    (behind : Reads (start + text.length + 1) more others) :
    Reads start (text ++ ' ' :: more) (tokens ++ others) :=
  reads.append (.space more) (.separator (by decide) behind)

/-- Every token is read where it stands in the text. -/
theorem exists_read (reads : Reads start text tokens) :
    ∀ token ∈ tokens, ∃ front c rest after, text = front ++ c :: rest ∧
      token.start = start + front.length ∧ Lexeme.read c rest = .ok (token.lexeme, after) := by
  induction reads with
  | nil => exact List.forall_mem_nil _
  | @separator start c rest tokens _ _ ih =>
      intro token member
      obtain ⟨front, d, more, after, rfl, begins, read⟩ := ih token member
      refine ⟨c :: front, d, more, after, rfl, ?_, read⟩
      rw [begins, List.length_cons]
      omega
  | @lexeme start c rest after lexeme tokens _ read _ ih =>
      refine List.forall_mem_cons.mpr ⟨⟨[], c, rest, after, rfl, rfl, read⟩, ?_⟩
      intro token member
      obtain ⟨front, d, more, behind, rfl, begins, later⟩ := ih token member
      refine ⟨lexeme.source ++ front, d, more, behind, ?_, ?_, later⟩
      · rw [List.append_assoc, read_source read]
      · rw [begins, List.length_append, Nat.add_assoc]

/-- Every token begins inside the text, and none is empty. -/
theorem start_le (reads : Reads start text tokens) :
    ∀ token ∈ tokens, start ≤ token.start ∧ token.start < token.stop := by
  intro token member
  obtain ⟨front, c, rest, after, rfl, begins, read⟩ := reads.exists_read token member
  have whole := congrArg List.length (read_source read)
  have shorter := read_length_lt read
  rw [List.length_append] at whole
  rw [Token.stop]
  omega

/-- A token begins behind those in front of it. -/
theorem stop_le_start {first : Token} (reads : Reads start text (first :: tokens)) :
    ∀ token ∈ tokens, first.stop ≤ token.start := by
  generalize isTokens : first :: tokens = whole at reads
  induction reads with
  | nil => cases isTokens
  | separator _ _ ih => exact ih isTokens
  | lexeme _ _ others _ =>
      cases isTokens
      exact fun token member => (others.start_le token member).1

/-- Every token ends inside the text. -/
theorem stop_le (reads : Reads start text tokens) :
    ∀ token ∈ tokens, token.stop ≤ start + text.length := by
  intro token member
  obtain ⟨front, c, rest, after, rfl, begins, read⟩ := reads.exists_read token member
  have whole := congrArg List.length (read_source read)
  rw [List.length_append] at whole
  rw [Token.stop, List.length_append]
  omega

end Token.Reads

end Lineage.Template
