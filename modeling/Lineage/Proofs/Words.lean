import Lineage.Proofs.Rendering
import Lineage.Proofs.TagEffects

/-!
# Tags that consist of words

A word of the expression language that is no keyword and no built-in name is a variable.  Here it is
said how the words of a tag are read: each is one token, an expression that is a single variable has
that variable as its only read, and the tags that open a condition or a loop over a variable have
the effects one would expect of them.
-/

namespace Lineage.Template

open Lineage.Text

/-! ## Words -/

/-- A character of a plain word. -/
def IsWordChar (c : Char) : Prop :=
  c.isAlphanum = true ∨ c = '_'

/-- A plain word: ASCII letters, digits and underscores, of which the first is no digit. -/
def IsWord (word : String) : Prop :=
  ∃ c rest, word.toList = c :: rest ∧ (c.isAlpha = true ∨ c = '_') ∧ ∀ d ∈ rest, IsWordChar d

instance decidableIsWordChar (c : Char) : Decidable (IsWordChar c) :=
  inferInstanceAs (Decidable (_ ∨ _))

instance decidableIsWord (word : String) : Decidable (IsWord word) :=
  match whole : word.toList with
  | [] => isFalse fun ⟨_, _, isCons, _⟩ => List.cons_ne_nil _ _ (isCons.symm.trans whole)
  | c :: rest =>
    decidable_of_iff ((c.isAlpha = true ∨ c = '_') ∧ rest.all (decide <| IsWordChar ·) = true) <| by
      simp only [IsWord, whole, List.all_eq_true, decide_eq_true_eq]
      constructor
      · exact fun plain => ⟨c, rest, rfl, plain⟩
      · rintro ⟨_, _, ⟨⟩, plain⟩
        exact plain

/-- A plain word that names a variable: no keyword and no name that is always defined. -/
structure IsVariable (name : String) : Prop where
  isWord : IsWord name
  notKeyword : name ∉ keywords
  notBuiltin : name ∉ builtins

theorem isWordChar_of_isAlpha {c : Char} (first : c.isAlpha = true ∨ c = '_') : IsWordChar c := by
  rcases first with alpha | underscore
  · exact Or.inl (by simp [Char.isAlphanum, alpha])
  · exact Or.inr underscore

theorem IsWord.isWordChar {word : String} (isWord : IsWord word) :
    ∀ c ∈ word.toList, IsWordChar c := by
  obtain ⟨c, rest, whole, first, others⟩ := isWord
  rw [whole]
  intro d member
  rcases List.mem_cons.mp member with rfl | later
  · exact isWordChar_of_isAlpha first
  · exact others d later

theorem IsWord.ne_nil {word : String} (isWord : IsWord word) : word.toList ≠ [] := by
  obtain ⟨c, rest, whole, _⟩ := isWord
  rw [whole]
  exact List.cons_ne_nil c rest

theorem toNat_of_isWordChar {c : Char} (plain : IsWordChar c) :
    (48 ≤ c.toNat ∧ c.toNat ≤ 57) ∨ (65 ≤ c.toNat ∧ c.toNat ≤ 90) ∨ c.toNat = 95 ∨
      (97 ≤ c.toNat ∧ c.toNat ≤ 122) := by
  rcases plain with alphanum | rfl
  · have ranges : ((decide (c.val ≥ 65 ∧ c.val ≤ 90) || decide (c.val ≥ 97) && decide (c.val ≤ 122))
        || decide (c.val ≥ 48) && decide (c.val ≤ 57)) = true := alphanum
    simp only [Bool.or_eq_true, Bool.and_eq_true, decide_eq_true_eq, ge_iff_le,
      UInt32.le_iff_toNat_le, UInt32.reduceToNat] at ranges
    rw [Char.toNat]
    omega
  · decide

theorem isBlank_of_isWordChar {c : Char} (plain : IsWordChar c) : isBlank c = false := by
  have range := toNat_of_isWordChar plain
  simp only [isBlank, Bool.or_eq_false_iff, Bool.and_eq_false_iff, decide_eq_false_iff_not,
    beq_eq_false_iff_ne]
  omega

theorem continuesWord_of_isWordChar {c : Char} (plain : IsWordChar c) :
    continuesWord c = true := by
  have range := toNat_of_isWordChar plain
  have ascii : c.toNat < 0x80 := by omega
  rcases plain with alphanum | rfl
  · simp [continuesWord, isLetterOrNumber, ascii, alphanum]
  · decide

theorem startsWord_of_isAlpha {c : Char} (first : c.isAlpha = true ∨ c = '_') :
    startsWord c = true := by
  have range := toNat_of_isWordChar (isWordChar_of_isAlpha first)
  have ascii : c.toNat < 0x80 := by omega
  rcases first with alpha | rfl
  · simp [startsWord, isLetter, ascii, alpha]
  · decide

theorem continuesTagName_of_isWordChar {c : Char} (plain : IsWordChar c) :
    continuesTagName c = true := by
  rcases plain with alphanum | rfl
  · simp [continuesTagName, alphanum]
  · decide

/-! ## Plain texts -/

/-- A text of plain words with single spaces in between, or what reads like one: word characters and
spaces, and no space at either end. -/
structure IsPlain (text : List Char) : Prop where
  chars : ∀ c ∈ text, IsWordChar c ∨ c = ' '
  front : ∀ c ∈ text.head?, IsWordChar c
  back : ∀ c ∈ text.getLast?, IsWordChar c

namespace IsPlain

theorem ofWord {word : String} (isWord : IsWord word) : IsPlain word.toList where
  chars c member := Or.inl (isWord.isWordChar c member)
  front c isHead := isWord.isWordChar c (List.mem_of_mem_head? isHead)
  back c isLast := isWord.isWordChar c (List.mem_of_getLast? isLast)

theorem join {first second : List Char} (one : IsPlain first) (other : IsPlain second)
    (filledFirst : first ≠ []) (filledSecond : second ≠ []) :
    IsPlain (first ++ ' ' :: second) where
  chars c member := by
    rcases List.mem_append.mp member with inFirst | later
    · exact one.chars c inFirst
    · rcases List.mem_cons.mp later with rfl | inSecond
      · exact Or.inr rfl
      · exact other.chars c inSecond
  front c isHead := by
    rw [List.head?_append_of_ne_nil _ filledFirst] at isHead
    exact one.front c isHead
  back c isLast := by
    rw [List.getLast?_append_of_ne_nil _ (List.cons_ne_nil _ _),
      List.getLast?_cons_of_ne_nil filledSecond] at isLast
    exact other.back c isLast

/-- A tag that is a word and another word behind it. -/
theorem pair {first second : String} (one : IsWord first) (other : IsWord second) :
    IsPlain (first.toList ++ ' ' :: second.toList) :=
  join (ofWord one) (ofWord other) one.ne_nil other.ne_nil

/-- A word that runs over another one. -/
theorem range {target range : String} (one : IsWord target) (other : IsWord range) :
    IsPlain (target.toList ++ ' ' :: ("in".toList ++ ' ' :: range.toList)) := by
  have isIn : IsWord "in" := by decide
  exact join (ofWord one) (pair isIn other) one.ne_nil (by simp)

theorem isTrimmed {text : List Char} (plain : IsPlain text) : IsTrimmed text :=
  ⟨fun c isHead => isBlank_of_isWordChar (plain.front c isHead),
    fun c isLast => isBlank_of_isWordChar (plain.back c isLast)⟩

/-- A plain text has no mark that means anything to the end of a tag. -/
theorem isTagText {text : List Char} (plain : IsPlain text) : IsTagText text := by
  apply isTagText_of_forall
  intro c member
  have plainHere := plain.chars c member
  constructor
  · rintro (rfl | rfl)
    · revert plainHere
      decide
    · revert plainHere
      decide
  · rintro rfl
    revert plainHere
    decide

theorem lineBreaks_eq_zero {text : List Char} (plain : IsPlain text) : lineBreaks text = 0 := by
  rw [lineBreaks, List.count_eq_zero]
  intro member
  have plainBreak := plain.chars '\n' member
  revert plainBreak
  decide

end IsPlain

/-! ## The word in front of a tag -/

theorem tagName_join {word : String} (isWord : IsWord word) (text : List Char) :
    tagName (word.toList ++ ' ' :: text) = word := by
  have continues : ∀ c ∈ word.toList, continuesTagName c = true := fun c member =>
    continuesTagName_of_isWordChar (isWord.isWordChar c member)
  have stops : (' ' :: text).takeWhile continuesTagName = [] := rfl
  rw [tagName, List.takeWhile_append_of_pos continues, stops, List.append_nil,
    String.ofList_toList]

theorem tagArgument_join {word : String} (isWord : IsWord word) {text : List Char}
    (trimmed : IsTrimmed text) : tagArgument (word.toList ++ ' ' :: text) = text := by
  have continues : ∀ c ∈ word.toList, continuesTagName c = true := fun c member =>
    continuesTagName_of_isWordChar (isWord.isWordChar c member)
  have stops : (' ' :: text).dropWhile continuesTagName = ' ' :: text := rfl
  rw [tagArgument, List.dropWhile_append_of_pos continues, stops]
  apply trim_of_trimsTo
  have blank : ∀ c ∈ [' '], isBlank c = true := List.forall_mem_singleton.mpr (by decide)
  exact ⟨trimmed, [' '], [], blank, by simp, by simp⟩

/-! ## Tokens of words -/

/-- A separator is passed over. -/
theorem tokens_space (start : Nat) (rest : List Char) :
    Token.all start (' ' :: rest) = Token.all (start + 1) rest := by
  rw [Token.all, if_pos (by decide)]

/-- A word is one token, if what follows does not go on with it. -/
theorem tokens_word {word : String} (isWord : IsWord word) (start : Nat) {rest : List Char}
    (stops : ∀ c ∈ rest.head?, continuesWord c = false) :
    Token.all start (word.toList ++ rest) =
      (Token.all (start + word.toList.length) rest).map (⟨.word word, start⟩ :: ·) := by
  obtain ⟨c, others, whole, first, plain⟩ := isWord
  have continues : ∀ d ∈ others, continuesWord d = true := fun d member =>
    continuesWord_of_isWordChar (plain d member)
  have noMore : rest.takeWhile continuesWord = [] ∧ rest.dropWhile continuesWord = rest := by
    cases rest with
    | nil => exact ⟨rfl, rfl⟩
    | cons d rest => simp [stops d rfl]
  have notSeparator : isSeparator c = false := by
    cases separates : isSeparator c with
    | false => rfl
    | true =>
        have blank := isBlank_of_isSeparator separates
        rw [isBlank_of_isWordChar (isWordChar_of_isAlpha first)] at blank
        cases blank
  have read : Lexeme.read c (others ++ rest) = .ok (.word word, rest) := by
    rw [Lexeme.read, if_pos (startsWord_of_isAlpha first), List.takeWhile_append_of_pos continues,
      List.dropWhile_append_of_pos continues, noMore.1, noMore.2, List.append_nil, ← whole,
      String.ofList_toList]
  rw [whole, List.cons_append, Token.all, notSeparator]
  simp only [Bool.false_eq_true, if_false]
  split
  · rename_i refused
    rw [read] at refused
    cases refused
  · rename_i found
    rw [read] at found
    cases found
    rw [Lexeme.source, whole]

theorem tokens_only_word {word : String} (isWord : IsWord word) (start : Nat) :
    Token.all start word.toList = .ok [⟨.word word, start⟩] := by
  have alone := tokens_word isWord start (fun c (isHead : c ∈ ([] : List Char).head?) =>
    nomatch isHead)
  rw [List.append_nil, Token.all] at alone
  exact alone

/-! ## Expressions that are one variable -/

/-- The part of an expression that is one word. -/
def Expression.single (source : List Char) (word : String) (start : Nat) : Expression :=
  ⟨source, [⟨.word word, start⟩]⟩

theorem callsSuper_single (source : List Char) (word : String) (start : Nat) :
    (Expression.single source word start).callsSuper = false := by
  simp [Expression.single, Expression.callsSuper, anySuperCall, Token.word?, callsSuper]

/-- A variable that is not bound around it is read, and only a test guards it. -/
theorem occurrences_single {name : String} (isVariable : IsVariable name) {bound : List String}
    (free : name ∉ bound) {context : Context} (noFilter : context ≠ .filter) (source : List Char)
    (start : Nat) : (Expression.single source name start).occurrences context bound =
      [⟨name, if context = .test then .conditional else .bare⟩] := by
  have isRead : isRead context bound [] name [] = true := by
    simp [isRead, callsSuper, namesTest, isVariable.notKeyword, isVariable.notBuiltin, free,
      noFilter]
  have noFallback : fallback? source [] = none := by
    simp [fallback?, afterSuffixes]
  simp [Expression.single, Expression.occurrences, occurrencesFrom, Token.word?, isRead,
    noFallback, InlineCondition.all]

/-! ## Tags of words -/

@[simp]
theorem opens?_word (word : String) (start : Nat) :
    Token.opens? ⟨.word word, start⟩ = none := by
  simp [Token.opens?, Token.isSign]

@[simp]
theorem closes?_word (word : String) (start : Nat) :
    Token.closes? ⟨.word word, start⟩ = none := by
  simp [Token.closes?, Token.isSign]

@[simp]
theorem depthAfter_word (depth : Nat) (word : String) (start : Nat) :
    Token.depthAfter depth ⟨.word word, start⟩ = depth := by
  simp [Token.depthAfter]

theorem ofText_word {word : String} (isWord : IsWord word) :
    Expression.ofText word.toList = .ok (Expression.single word.toList word 0) := by
  simp [Expression.ofText, tokens_only_word isWord, Bind.bind, Except.bind, pairBrackets,
    Expression.single, Pure.pure, Except.pure]

/-- A tag whose test is one word. -/
theorem testEffects_word {word : String} (isWord : IsWord word) (before : List Effect) :
    testEffects before word.toList = before ++ [.test (Expression.single word.toList word 0)] := by
  rw [testEffects, ofText_word isWord]
  rfl

/-- A tag that opens a loop over one word with one word as its target. -/
theorem loopEffects_words {target range : String} (isTarget : IsWord target)
    (isRange : IsWord range) (notKeyword : target ∉ keywords) (notKeywordRange : range ∉ keywords) :
    ∃ source start, loopEffects (target.toList ++ ' ' :: ("in".toList ++ ' ' :: range.toList)) =
      .ok [.read (Expression.single source range start) .plain, .enter .loop [target]] := by
  have isIn : IsWord "in" := by decide
  have tokens := tokens_word isTarget 0 (fun c
    (isHead : c ∈ (' ' :: ("in".toList ++ ' ' :: range.toList)).head?) =>
      by cases isHead; decide)
  rw [tokens_space, tokens_word isIn _ (fun c (isHead : c ∈ (' ' :: range.toList).head?) =>
    by cases isHead; decide), tokens_space, tokens_only_word isRange] at tokens
  have notIn : target ≠ "in" := by
    rintro rfl
    exact notKeyword (by decide)
  have notRecursive : range ≠ "recursive" := by
    rintro rfl
    exact notKeywordRange (by decide)
  have notIf : range ≠ "if" := by
    rintro rfl
    exact notKeywordRange (by decide)
  refine ⟨target.toList ++ ' ' :: ("in".toList ++ ' ' :: range.toList),
    0 + target.toList.length + 1 + "in".toList.length + 1, ?_⟩
  rw [loopEffects, Expression.ofText, tokens]
  simp [Except.map, Bind.bind, Except.bind, Pure.pure, Except.pure, pairBrackets, findTopLevel?,
    Token.isWord, notIn, notRecursive, notIf, targetNames?, withinRound?, commaParts,
    splitTopLevel, Token.isSign, onlyWord?, Token.word?, Expression.part, Expression.single]

/-- The effects of a tag that opens a condition on a variable. -/
theorem ofTag_if_word {word : String} (isWord : IsWord word) :
    Effect.ofTag ("if".toList ++ ' ' :: word.toList) =
      [.enter (.conditional [] false) [], .test (Expression.single word.toList word 0)] := by
  have isIf : IsWord "if" := by decide
  rw [ofTag_if (tagName_join isIf _), tagArgument_join isIf (IsPlain.ofWord isWord).isTrimmed,
    testEffects_word isWord]
  rfl

/-- The effects of a tag that goes on with a condition on another variable. -/
theorem ofTag_elif_word {word : String} (isWord : IsWord word) :
    Effect.ofTag ("elif".toList ++ ' ' :: word.toList) =
      [.expectBranch, .test (Expression.single word.toList word 0)] := by
  have isElif : IsWord "elif" := by decide
  rw [ofTag_elif (tagName_join isElif _), tagArgument_join isElif (IsPlain.ofWord isWord).isTrimmed,
    testEffects_word isWord]
  rfl

/-- The effects of a tag that opens a loop over a variable. -/
theorem ofTag_for_words {target range : String} (isTarget : IsVariable target)
    (isRange : IsVariable range) : ∃ source start,
      Effect.ofTag ("for".toList ++ ' ' :: (target.toList ++
        ' ' :: ("in".toList ++ ' ' :: range.toList))) =
      [.read (Expression.single source range start) .plain, .enter .loop [target]] := by
  have isFor : IsWord "for" := by decide
  obtain ⟨source, start, effects⟩ := loopEffects_words isTarget.isWord isRange.isWord
    isTarget.notKeyword isRange.notKeyword
  refine ⟨source, start, ?_⟩
  have plain := IsPlain.range isTarget.isWord isRange.isWord
  rw [ofTag_for (tagName_join isFor _), tagArgument_join isFor plain.isTrimmed, effects]
  rfl

end Lineage.Template
