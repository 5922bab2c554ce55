import Lineage.Proofs.ExpressionTexts
import Lineage.Proofs.Identifiers
import Lineage.Proofs.RenamedTags

/-!
# Another word behind a point

In the text of an expression, the word behind a point is replaced by another identifier.  No lexeme
in front of the point can see as far as the word, and none behind the word begins in it, so that all
other lexemes stay (`Token.Reads.replace`).  The new text is an expression again, and a renaming of
the old one (`RenamesText.of_word`).
-/

namespace Lineage.Template

open Lineage.Text

/-! ## Identifiers -/

/-- The name is an identifier: it begins like one, and all that follows goes on with it. -/
def IsIdentifier (name : String) : Prop :=
  ∃ c rest, name.toList = c :: rest ∧ startsWord c = true ∧ ∀ d ∈ rest, continuesWord d = true

namespace IsIdentifier

variable {name : String} (identifier : IsIdentifier name)
include identifier

theorem continuesWord_of_mem : ∀ c ∈ name.toList, continuesWord c = true := by
  rcases identifier with ⟨c, rest, isName, starts, continues⟩
  rw [isName]
  exact List.forall_mem_cons.mpr ⟨continuesWord_of_startsWord starts, continues⟩

theorem toList_ne_nil : name.toList ≠ [] := by
  rcases identifier with ⟨c, rest, isName, _⟩
  rw [isName]
  exact List.cons_ne_nil c rest

/-- An identifier is read as a word, wherever it ends. -/
theorem read {more : List Char} (stops : ∀ c ∈ more.head?, continuesWord c = false) :
    ∃ c rest, name.toList ++ more = c :: rest ∧ isSeparator c = false ∧
      Lexeme.read c rest = .ok (.word name, more) := by
  rcases identifier with ⟨c, rest, isName, starts, continues⟩
  refine ⟨c, rest ++ more, by rw [isName, List.cons_append], ?_, ?_⟩
  · rw [← Bool.not_eq_true]
    intro separates
    have notBlank := isBlank_of_continuesWord (continuesWord_of_startsWord starts)
    cases (isBlank_of_isSeparator separates).symm.trans notBlank
  · have noMore : more.takeWhile continuesWord = [] ∧ more.dropWhile continuesWord = more := by
      cases more with
      | nil => exact ⟨rfl, rfl⟩
      | cons d more => simp [stops d rfl]
    rw [Lexeme.read, if_pos starts, List.takeWhile_append_of_pos continues,
      List.dropWhile_append_of_pos continues, noMore.1, noMore.2, List.append_nil, ← isName,
      String.ofList_toList]

end IsIdentifier

/-- What is read as a word is an identifier, and it ends where it is read to the end. -/
theorem isIdentifier_of_read {c : Char} {rest after : List Char} {name : String}
    (read : Lexeme.read c rest = .ok (.word name, after)) :
    IsIdentifier name ∧ ∀ d ∈ after.head?, continuesWord d = false := by
  cases read_eq_ok_iff.mp read with
  | word starts =>
      refine ⟨⟨c, rest.takeWhile continuesWord, String.toList_ofList, starts, ?_⟩, ?_⟩
      · exact fun d member => List.mem_takeWhile_imp member
      · intro d isHead
        have stops := List.head?_dropWhile_not continuesWord rest
        rw [Option.mem_def.mp isHead] at stops
        exact stops

/-- No digit begins an identifier. -/
theorem isDigit_of_startsWord {c : Char} (starts : startsWord c = true) : c.isDigit = false := by
  rw [← Bool.not_eq_true]
  intro digit
  have none : ∀ point ∈ List.range' 48 10, startsWord (Char.ofNat point) = false := by decide
  have isPoint : c.toNat ∈ List.range' 48 10 := by
    rw [List.mem_range'_1]
    simp only [Char.isDigit, Bool.and_eq_true, decide_eq_true_eq] at digit
    exact ⟨digit.1, Nat.lt_succ_of_le digit.2⟩
  have here := none c.toNat isPoint
  rw [Char.ofNat_toNat, starts] at here
  cases here

/-! ## Lexemes whose end is known -/

/-- No lexeme goes on with a point that stands before no digit. -/
theorem EndsLexeme.point {more : List Char} (noDigit : ∀ c ∈ more.head?, c.isDigit = false) :
    EndsLexeme ('.' :: more) := by
  rintro c ⟨⟩
  have noNumber : more.head?.any Char.isDigit = false := by
    cases more with
    | nil => rfl
    | cons c more => exact noDigit c rfl
  refine ⟨by decide, ?_, rfl, by decide⟩
  rw [continuesNumber, List.tail_cons, noNumber]
  rfl

/-- No lexeme goes on with a point in front of a word. -/
theorem EndsLexeme.attribute {blanks more : List Char} {name : String}
    (areBlank : ∀ c ∈ blanks, isSeparator c = true) (identifier : IsIdentifier name) :
    EndsLexeme ('.' :: (blanks ++ (name.toList ++ more))) := by
  apply EndsLexeme.point
  cases blanks with
  | nil =>
      rcases identifier with ⟨first, rest, isName, starts, _⟩
      rw [isName]
      rintro c ⟨⟩
      exact isDigit_of_startsWord starts
  | cons first blanks =>
      have separates := areBlank first List.mem_cons_self
      rintro c ⟨⟩
      simp only [isSeparator, Bool.or_eq_true, beq_iff_eq] at separates
      rcases separates with (((rfl | rfl) | rfl) | rfl) | rfl <;> rfl

theorem splitLiteral?_of_isQuoted {mark : Char} {inner : List Char} (noEscape : mark ≠ '\\')
    (quoted : IsQuoted mark inner) (rest : List Char) :
    splitLiteral? mark (inner ++ mark :: rest) = some (inner, rest) := by
  induction quoted with
  | nil => rw [List.nil_append, splitLiteral?.eq_def]; simp
  | cons noMark noBackslash _ ih =>
      rw [List.cons_append, splitLiteral?.eq_def]
      simp [noMark, noBackslash, ih]
  | escape _ ih =>
      rw [List.cons_append, List.cons_append, splitLiteral?.eq_def]
      simp [Ne.symm noEscape, ih]

/-- A literal that ends before a text is split off without that text too. -/
theorem splitLiteral?_ahead {mark : Char} {text inner after more : List Char}
    (noEscape : mark ≠ '\\')
    (found : splitLiteral? mark (text ++ more) = some (inner, after ++ more)) :
    splitLiteral? mark text = some (inner, after) := by
  have whole := splitLiteral?_append found
  rw [← List.cons_append, ← List.append_assoc] at whole
  rw [← List.append_cancel_right whole]
  exact splitLiteral?_of_isQuoted noEscape (isQuoted_of_splitLiteral? found) after

/-- A lexeme that ends before a text in which it does not go on is read without that text too. -/
theorem read_ahead {c : Char} {text after more : List Char} {lexeme : Lexeme}
    (ends : EndsLexeme more) (read : Lexeme.read c (text ++ more) = .ok (lexeme, after ++ more)) :
    Lexeme.read c text = .ok (lexeme, after) := by
  have alone : ∃ lexeme' after', Lexeme.IsReadAt c text lexeme' after' := by
    generalize whole : after ++ more = behind at read
    cases read_eq_ok_iff.mp read with
    | word starts => exact ⟨_, _, .word starts⟩
    | number noWord isDigit => exact ⟨_, _, .number noWord isDigit⟩
    | literal noWord noDigit isQuote found =>
        have noEscape : c ≠ '\\' := by
          rintro rfl
          exact absurd isQuote (by decide)
        rw [← whole] at found
        exact ⟨_, _, .literal noWord noDigit isQuote (splitLiteral?_ahead noEscape found)⟩
    | pair begins found =>
        rw [pairOperator?_behind ends] at found
        exact ⟨_, _, .pair begins found⟩
    | single begins noPair isSingle =>
        rw [pairOperator?_behind ends] at noPair
        exact ⟨_, _, .single begins noPair isSingle⟩
  obtain ⟨lexeme', after', isReadAt⟩ := alone
  have found := read_eq_ok_iff.mpr isReadAt
  have same := (read_behind ends found).symm.trans read
  rw [Except.ok.injEq, Prod.mk.injEq] at same
  rw [found, same.1, List.append_cancel_right same.2]

namespace Token.Reads

variable {start : Nat} {text : List Char} {token : Token} {first rest tokens : List Token}

/-- The first token stands behind separators, and the others are read behind it. -/
theorem exists_cons (reads : Reads start text (token :: rest)) :
    ∃ front c more after, text = front ++ c :: more ∧ (∀ d ∈ front, isSeparator d = true) ∧
      token.start = start + front.length ∧ Lexeme.read c more = .ok (token.lexeme, after) ∧
      Reads token.stop after rest := by
  generalize isTokens : token :: rest = tokens at reads
  induction reads with
  | nil => cases isTokens
  | @separator start c text tokens separates _ ih =>
      rcases ih isTokens with ⟨front, d, more, after, rfl, areFront, starts, read, others⟩
      refine ⟨c :: front, d, more, after, rfl, List.forall_mem_cons.mpr ⟨separates, areFront⟩, ?_,
        read, others⟩
      rw [starts, List.length_cons]
      omega
  | @lexeme start c text after lexeme tokens filled read others _ =>
      cases isTokens
      exact ⟨[], c, text, after, rfl, List.forall_mem_nil _, rfl, read, others⟩

/-- The last of the tokens are read from an end of the text. -/
theorem exists_behind (reads : Reads start text (first ++ rest)) :
    ∃ front behind, text = front ++ behind ∧ Reads (start + front.length) behind rest := by
  generalize isTokens : first ++ rest = tokens at reads
  induction reads generalizing first with
  | nil start =>
      cases (List.append_eq_nil_iff.mp isTokens).2
      exact ⟨[], [], rfl, .nil _⟩
  | @separator start c text tokens separates others ih =>
      rcases ih isTokens with ⟨front, behind, rfl, isRest⟩
      refine ⟨c :: front, behind, rfl, ?_⟩
      rwa [List.length_cons, Nat.add_comm front.length, ← Nat.add_assoc]
  | @lexeme start c text after lexeme tokens filled read others ih =>
      cases first with
      | nil =>
          rw [List.nil_append] at isTokens
          rw [isTokens]
          exact ⟨[], c :: text, rfl, .lexeme filled read others⟩
      | cons token first =>
          rw [List.cons_append] at isTokens
          cases isTokens
          rcases ih rfl with ⟨front, behind, rfl, isRest⟩
          refine ⟨lexeme.source ++ front, behind, ?_, ?_⟩
          · rw [← read_source read, List.append_assoc]
          · rwa [List.length_append, ← Nat.add_assoc]

/-- The tokens in front of one at which no lexeme goes on are read without the text from there. -/
theorem cut {more : List Char} (reads : Reads start (text ++ more) (first ++ token :: rest))
    (ends : EndsLexeme more) (isStart : token.start = start + text.length) :
    Reads start text first := by
  generalize isText : text ++ more = whole at reads
  generalize isTokens : first ++ token :: rest = tokens at reads
  induction reads generalizing text first with
  | nil => cases (List.append_eq_nil_iff.mp isTokens).2
  | @separator start c behind tokens separates others ih =>
      cases text with
      | nil =>
          have inside := others.start_le token (isTokens ▸ by simp)
          rw [List.length_nil] at isStart
          omega
      | cons d text =>
          rw [List.cons_append] at isText
          cases isText
          rw [List.length_cons, Nat.add_comm text.length, ← Nat.add_assoc] at isStart
          exact .separator separates (ih isStart rfl isTokens)
  | @lexeme start c behind after lexeme tokens filled read others ih =>
      cases first with
      | nil =>
          rw [List.nil_append] at isTokens
          cases isTokens
          have none : text = [] := List.length_eq_zero_iff.mp (by simpa using isStart)
          rw [none]
          exact .nil _
      | cons one first =>
          rw [List.cons_append] at isTokens
          cases isTokens
          have source := read_source read
          have inside := others.start_le token (by simp)
          have ownFits : lexeme.source.length ≤ text.length := by omega
          have own : lexeme.source <+: text := by
            apply List.prefix_of_prefix_length_le _ (List.prefix_append text more) ownFits
            rw [isText, ← source]
            exact List.prefix_append _ _
          rcases own with ⟨front, rfl⟩
          rw [← source, List.append_assoc, List.append_cancel_left_eq] at isText
          subst isText
          rw [List.length_append, ← Nat.add_assoc] at isStart
          have behindOwn := ih isStart rfl rfl
          cases isOwn : lexeme.source with
          | nil =>
              have longer := read_length_lt read
              rw [← source, isOwn, List.nil_append] at longer
              exact absurd longer (Nat.lt_irrefl _)
          | cons d own =>
              rw [isOwn, List.cons_append, List.cons.injEq] at source
              rcases source with ⟨rfl, rfl⟩
              rw [← List.append_assoc] at read
              exact .lexeme filled (read_ahead ends read) behindOwn

/-- The same lexemes are read wherever the text begins. -/
theorem anywhere (reads : Reads start text tokens) (other : Nat) :
    ∃ others, Reads other text others ∧ others.map (·.lexeme) = tokens.map (·.lexeme) := by
  induction reads generalizing other with
  | nil => exact ⟨[], .nil _, rfl⟩
  | separator separates _ ih =>
      rcases ih (other + 1) with ⟨others, isOthers, same⟩
      exact ⟨others, .separator separates isOthers, same⟩
  | @lexeme start c text after lexeme tokens filled read _ ih =>
      rcases ih (other + lexeme.source.length) with ⟨others, isOthers, same⟩
      exact ⟨⟨lexeme, other⟩ :: others, .lexeme filled read isOthers, congrArg (lexeme :: ·) same⟩

/-- Separators in front of a text leave its tokens as they are. -/
theorem separated {blanks : List Char} (areBlank : ∀ c ∈ blanks, isSeparator c = true)
    (reads : Reads (start + blanks.length) text tokens) : Reads start (blanks ++ text) tokens := by
  induction blanks generalizing start with
  | nil => exact reads
  | cons c blanks ih =>
      rcases List.forall_mem_cons.mp areBlank with ⟨here, there⟩
      rw [List.length_cons, Nat.add_comm blanks.length, ← Nat.add_assoc] at reads
      exact .separator here (ih there reads)

variable {lead tail : List Char} {point : Token} {old new : String}

/-- A word behind a point, replaced by another identifier, leaves all other lexemes as they are. -/
theorem replace (isPoint : point.isSign "." = true) (identifier : IsIdentifier new)
    (reads : Reads start (lead ++ (old.toList ++ tail))
      (first ++ point :: ⟨.word old, start + lead.length⟩ :: rest)) :
    ∃ others, Reads start (lead ++ (new.toList ++ tail))
        (first ++ point :: ⟨.word new, start + lead.length⟩ :: others) ∧
      others.map (·.lexeme) = rest.map (·.lexeme) := by
  rw [Token.isSign, beq_iff_eq] at isPoint
  rcases point with ⟨lexeme, place⟩
  subst isPoint
  rcases reads.exists_behind with ⟨front, behind, isText, isBehind⟩
  rcases isBehind.exists_cons with ⟨blanks, c, more, after, rfl, _, starts, readPoint, isAfter⟩
  rcases isAfter.exists_cons with ⟨gap, d, more', tail', rfl, areGap, startsOld, readWord, isTail⟩
  rcases isIdentifier_of_read readWord with ⟨identifierOld, stops⟩
  have sourcePoint : '.' :: (gap ++ d :: more') = c :: more := read_source readPoint
  have sourceWord : old.toList ++ tail' = d :: more' := read_source readWord
  rw [← sourcePoint, ← sourceWord] at isText
  change place = start + front.length + blanks.length at starts
  change start + lead.length = place + 1 + gap.length at startsOld
  -- The two cuts in front of the word are the same, since they are equally long.
  have isLead : lead = front ++ blanks ++ '.' :: gap ∧ tail = tail' := by
    have whole : lead ++ (old.toList ++ tail) =
        (front ++ blanks ++ '.' :: gap) ++ (old.toList ++ tail') := by
      rw [isText]
      simp
    have length : lead.length = (front ++ blanks ++ '.' :: gap).length := by
      simp only [List.length_append, List.length_cons]
      omega
    rcases List.append_inj whole length with ⟨sameLead, sameRest⟩
    exact ⟨sameLead, List.append_cancel_left sameRest⟩
  rcases isLead with ⟨isLead, rfl⟩
  have split (name : String) : lead ++ (name.toList ++ tail) =
      (front ++ blanks) ++ '.' :: (gap ++ (name.toList ++ tail)) := by
    rw [isLead]
    simp
  have isPlace : place = start + (front ++ blanks).length := by
    rw [List.length_append, ← Nat.add_assoc]
    exact starts
  rw [split old] at reads
  have inFront : Reads start (front ++ blanks) first :=
    reads.cut (.attribute areGap identifierOld) isPlace
  rcases identifier.read stops with ⟨e, others, isWord, filled, readNew⟩
  rcases isTail.anywhere (start + lead.length + new.toList.length) with ⟨rest', isRest, same⟩
  refine ⟨rest', ?_, same⟩
  rw [split new]
  apply inFront.append (.attribute areGap identifier)
  rw [← isPlace]
  apply Reads.lexeme (by decide)
    (read_sign (by decide) (by decide) (by decide) (by decide) (by decide) _)
  apply separated areGap
  rw [isWord]
  change Reads (place + 1 + gap.length) (e :: others) _
  rw [← startsOld]
  exact .lexeme filled readNew isRest

end Token.Reads

/-! ## Renamed expressions -/

/-- The words of a list that name no attribute.  The list stands behind a point if it is `dotted`. -/
def plainWords (dotted : Bool) : List Token → List String
  | [] => []
  | token :: rest =>
    (if dotted then [] else token.word?.toList) ++ plainWords (token.isSign ".") rest

/-- Neither name is a word of the list that names no attribute. -/
def AreApart (old new : String) (dotted : Bool) (tokens : List Token) : Prop :=
  old ∉ plainWords dotted tokens ∧ new ∉ plainWords dotted tokens

namespace AreApart

variable {old new : String} {dotted : Bool} {token : Token} {tokens : List Token}
  (areApart : AreApart old new dotted (token :: tokens))
include areApart

theorem behind : AreApart old new (token.isSign ".") tokens :=
  ⟨fun member => areApart.1 (List.mem_append_right _ member),
    fun member => areApart.2 (List.mem_append_right _ member)⟩

theorem first (plain : dotted = false) : ∀ name ∈ token.word?, name ≠ old ∧ name ≠ new := by
  intro name isName
  have here : name ∈ plainWords dotted (token :: tokens) := by
    rw [plainWords, plain, if_neg Bool.false_ne_true, Option.mem_def.mp isName]
    exact List.mem_append_left _ (List.mem_singleton_self name)
  exact ⟨fun same => areApart.1 (same ▸ here), fun same => areApart.2 (same ▸ here)⟩

end AreApart

namespace Renames

variable {apart : Prop} {old new : String} {dotted : Bool} {tokens renamed : List Token}

/-- Tokens are a renaming of those with the same lexemes. -/
theorem of_lexemes (same : renamed.map (·.lexeme) = tokens.map (·.lexeme))
    (free : apart → AreApart old new dotted tokens) :
    Renames apart old new dotted tokens renamed := by
  induction tokens generalizing dotted renamed with
  | nil =>
      rw [List.map_nil, List.map_eq_nil_iff] at same
      rw [same]
      exact .nil dotted
  | cons token tokens ih =>
      rw [List.map_cons, List.map_eq_cons_iff] at same
      rcases same with ⟨token', renamed, rfl, lexeme, others⟩
      exact .same lexeme.symm (fun isApart => (free isApart).first)
        (ih others fun isApart => (free isApart).behind)

/-- Tokens are a renaming of those that have another word behind one point. -/
theorem of_attribute {first rest others : List Token} {point word word' : Token}
    (isPoint : point.isSign "." = true) (isOld : word.word? = some old)
    (isNew : word'.word? = some new) (inertOld : IsInertName old rest)
    (inertNew : IsInertName new rest) (same : others.map (·.lexeme) = rest.map (·.lexeme))
    (free : apart → AreApart old new dotted (first ++ point :: word :: rest)) :
    Renames apart old new dotted (first ++ point :: word :: rest)
      (first ++ point :: word' :: others) := by
  induction first generalizing dotted with
  | nil =>
      refine .same rfl (fun isApart => (free isApart).first) ?_
      rw [isPoint]
      refine .changed isOld isNew inertOld inertNew (of_lexemes same fun isApart => ?_)
      have behind := (free isApart).behind.behind
      rwa [Token.isSign_of_word? isOld] at behind
  | cons token first ih =>
      exact .same rfl (fun isApart => (free isApart).first)
        (ih fun isApart => (free isApart).behind)

theorem pairBrackets_eq (renames : Renames apart old new dotted tokens renamed)
    (pending : List Bracket) : pairBrackets pending tokens = pairBrackets pending renamed := by
  have alike := renames.alike
  clear renames
  induction alike generalizing pending with
  | nil => rfl
  | cons first _ ih => simp only [pairBrackets, first.opens?_eq, first.closes?_eq, ih]

end Renames

/-- The text of an expression in which the word behind a point is replaced by another identifier is
a renaming of it. -/
theorem RenamesText.of_word {apart : Prop} {lead tail : List Char} {old new : String}
    {first rest : List Token} {point : Token} (isPoint : point.isSign "." = true)
    (identifier : IsIdentifier new)
    (read : Expression.ofText (lead ++ (old.toList ++ tail)) =
      .ok ⟨lead ++ (old.toList ++ tail), first ++ point :: ⟨.word old, lead.length⟩ :: rest⟩)
    (inertOld : IsInertName old rest) (inertNew : IsInertName new rest)
    (free : apart →
      AreApart old new false (first ++ point :: ⟨.word old, lead.length⟩ :: rest)) :
    RenamesText apart old new (lead ++ (old.toList ++ tail)) (lead ++ (new.toList ++ tail)) := by
  rcases Expression.ofText_eq_ok_iff.mp read with ⟨_, reads, pairs⟩
  dsimp only at reads pairs
  rw [← Nat.zero_add lead.length] at reads pairs free
  rcases reads.replace isPoint identifier with ⟨others, reads', same⟩
  have renames : Renames apart old new false
      (first ++ point :: ⟨.word old, 0 + lead.length⟩ :: rest)
      (first ++ point :: ⟨.word new, 0 + lead.length⟩ :: others) :=
    .of_attribute isPoint rfl rfl inertOld inertNew same free
  refine ⟨_, ⟨_, _⟩, read, Expression.ofText_eq_ok_iff.mpr ⟨rfl, reads', ?_⟩, ?_⟩
  · rw [← renames.pairBrackets_eq, pairs]
  · rwa [Nat.zero_add] at renames ⊢

end Lineage.Template
