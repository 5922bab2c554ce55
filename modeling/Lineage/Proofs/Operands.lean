import Lineage.Proofs.ExpressionTexts
import Lineage.Proofs.InlineConditions
import Lineage.Proofs.Words

/-!
# Inline conditions of three operands

The text `VALUE if TEST else OTHER` is read as one expression.  Here it is said what that expression
is and what it reads, by what the three operands are read as on their own: its reads are those of
the operands, in which the test guards itself, and in the value every word that it has
(`occurrences_inline`).  An operand may have conditions of its own, inside brackets.  These guard
what they guard in the operand, since their values and tests do not leave the brackets.
-/

namespace Lineage.Template

open Lineage.Text

/-! ## Operands -/

/-- The text of an operand of an inline condition, and what it is read as. -/
structure IsOperand (text : List Char) (operand : Expression) : Prop where
  ofText : Expression.ofText text = .ok operand
  trimmed : IsTrimmed text
  filled : operand.tokens ≠ []
  /-- There is no comma, no `if` and no `else` outside its brackets. -/
  whole : findTopLevel? Token.endsOperand 0 operand.tokens = none
  /-- It does not end with a token that takes what follows along. -/
  complete : ∀ token ∈ operand.tokens.getLast?, token.goesOn = false
  noSuper : operand.callsSuper = false

namespace IsOperand

variable {text : List Char} {operand : Expression} (isOperand : IsOperand text operand)
include isOperand

theorem source : operand.source = text :=
  (Expression.ofText_eq_ok_iff.mp isOperand.ofText).1

theorem reads : Token.Reads 0 text operand.tokens :=
  (Expression.ofText_eq_ok_iff.mp isOperand.ofText).2.1

theorem pairs : pairBrackets [] operand.tokens = .ok () :=
  (Expression.ofText_eq_ok_iff.mp isOperand.ofText).2.2

theorem isClosed : IsClosed operand.tokens :=
  ⟨balanced_of_pairBrackets isOperand.pairs, isOperand.whole⟩

theorem isRest : IsRest operand.source operand.tokens where
  inside token member := by
    have inside := isOperand.reads.stop_le token member
    rwa [Nat.zero_add, ← isOperand.source] at inside
  balanced := ⟨0, isOperand.isClosed.balanced⟩
  complete := isOperand.complete

end IsOperand

theorem depthBehind_of_balanced {tokens : List Token} (balanced : Balanced 0 tokens) :
    depthBehind 0 tokens = 0 := by
  rw [← List.append_nil tokens] at balanced
  exact balanced.append_right

/-! ## The conditions of an inline condition -/

namespace InlineCondition

variable {value test other : List Token} {first second : Nat} {here there : Token}

/-- The condition between a value that begins with the expression and its test. -/
def between (value test : List Token) : InlineCondition where
  valueStart := 0
  position := value.length
  testEnd := value.length + 1 + test.length
  tested := wordsIn test

theorem around_between (closedValue : IsClosed value) (closedTest : IsClosed test)
    (isElse : there.isWord "else" = true) (extra : List Token) :
    around value.reverse (test.map (Token.later first) ++ there :: extra) = between value test := by
  have begins : valueLength 0 value.reverse = value.length := by
    have closed : IsClosed (value.reverse.reverse ++ []) := by simpa using closedValue
    have reaches := valueLength_operand closed
    rwa [List.reverse_reverse, depthBehind_of_balanced closedValue.balanced, List.length_reverse]
      at reaches
  have ends : testLength 0 (test.map (Token.later first) ++ there :: extra) = test.length :=
    testLength_operand closedTest.balanced closedTest.whole isElse
  rw [around, begins, ends, List.length_reverse, Nat.sub_self, between,
    List.take_left' (List.length_map _), wordsIn_later]

/-- The conditions of three operands, each further on, and the one between value and test. -/
def joined (value test other : List Token) : List InlineCondition :=
  InlineCondition.all [] value ++ between value test ::
    ((InlineCondition.all [] test).map (later (value.length + 1)) ++
      (InlineCondition.all [] other).map (later (test.length + value.length + 2)))

theorem all_eq_joined (filled : value ≠ []) (closedValue : IsClosed value)
    (closedTest : IsClosed test) (closedOther : IsClosed other) (isIf : here.isWord "if" = true)
    (isElse : there.isWord "else" = true) :
    InlineCondition.all [] (value ++ here :: (test.map (Token.later first) ++
      there :: other.map (Token.later second))) = joined value test other := by
  have notIf : there.isWord "if" = false := by
    rw [Token.isWord, beq_iff_eq] at isElse
    simp [Token.isWord, isElse]
  have inValue : InlineCondition.all (([] : List Token).map (Token.later 0) ++ [])
      (value.map (Token.later 0) ++ here :: (test.map (Token.later first) ++
        there :: other.map (Token.later second))) = _ := all_excerpt closedValue
  have inTest : InlineCondition.all (([] : List Token).map (Token.later first) ++
      here :: value.reverse) (test.map (Token.later first) ++
        there :: other.map (Token.later second)) = _ := all_excerpt closedTest
  have inOther : InlineCondition.all (([] : List Token).map (Token.later second) ++
      there :: (test.reverse.map (Token.later first) ++ here :: value.reverse))
      (other.map (Token.later second) ++ []) = _ := all_excerpt closedOther
  have unmoved : later 0 = id := rfl
  simp only [unmoved, Token.later_zero, List.map_id, List.map_nil, List.nil_append,
    List.append_nil, List.reverse_nil, List.length_nil, List.length_cons, List.length_reverse,
    List.length_append, List.length_map] at inValue inTest inOther
  have filledBehind : value.reverse ≠ [] := by simpa using filled
  have behind : test.length + (value.length + 1) + 1 = test.length + value.length + 2 := by omega
  rw [inValue, all_cons_of_if isIf filledBehind, around_between closedValue closedTest isElse,
    inTest, all_cons_of_other notIf, inOther, InlineCondition.all, behind, List.append_nil, joined]

/-! ### What the conditions guard -/

variable {distance position : Nat} {name : String} {conditions : List InlineCondition}

theorem any_guards_later :
    (conditions.map (later distance)).any (·.guards (position + distance) name) =
      conditions.any (·.guards position name) := by
  rw [List.any_map]
  congr 1
  funext condition
  exact guards_later

theorem any_guards_later_of_lt (before : position < distance) :
    (conditions.map (later distance)).any (·.guards position name) = false := by
  rw [List.any_map, List.any_eq_false]
  intro condition _
  simp [guards_later_of_lt before]

theorem any_guards_all_of_le {tokens : List Token} (behind : tokens.length ≤ position) :
    (InlineCondition.all [] tokens).any (·.guards position name) = false := by
  rw [List.any_eq_false]
  intro condition member
  simp [guards_of_mem_all member (by simpa using behind)]

/-- In the value, the test of the condition guards the words that it has. -/
theorem joined_guards_value (inside : position < value.length) :
    (joined value test other).any (·.guards position name) =
      ((InlineCondition.all [] value).any (·.guards position name) ||
        (wordsIn test).contains name) := by
  have here : (between value test).guards position name = (wordsIn test).contains name := by
    have notBehind : ¬ value.length < position := by omega
    simp [guards, between, inside, notBehind]
  rw [joined, List.any_append, List.any_cons, List.any_append, here,
    any_guards_later_of_lt (by omega), any_guards_later_of_lt (by omega), Bool.or_false,
    Bool.or_false]

/-- In the test every word is guarded. -/
theorem joined_guards_test (inside : position < test.length) :
    (joined value test other).any (·.guards (position + (value.length + 1)) name) = true := by
  have behind : value.length < position + (value.length + 1) := by omega
  have before : position + (value.length + 1) < value.length + 1 + test.length := by omega
  have here : (between value test).guards (position + (value.length + 1)) name = true := by
    simp [guards, between, behind, before]
  rw [joined, List.any_append, List.any_cons, here, Bool.true_or, Bool.or_true]

/-- In the operand behind the `else` only its own conditions guard. -/
theorem joined_guards_other :
    (joined value test other).any (·.guards (position + (test.length + value.length + 2)) name) =
      (InlineCondition.all [] other).any (·.guards position name) := by
  have here : (between value test).guards (position + (test.length + value.length + 2)) name =
      false := by
    have notTest : ¬ position + (test.length + value.length + 2) <
        value.length + 1 + test.length := by omega
    have notValue : ¬ position + (test.length + value.length + 2) < value.length := by omega
    simp [guards, between, notTest, notValue]
  have inTest : position + (test.length + value.length + 2) =
      position + test.length + 1 + (value.length + 1) := by omega
  rw [joined, List.any_append, List.any_cons, List.any_append, here, any_guards_later,
    any_guards_all_of_le (by omega), inTest, any_guards_later, any_guards_all_of_le (by omega),
    Bool.false_or, Bool.false_or, Bool.false_or]

end InlineCondition

/-! ## The reads of an inline condition -/

/-- A keyword is not read. -/
theorem occurrencesFrom_keyword {name : String} (isKeyword : keywords.contains name = true)
    {source : List Char} {context : Context} {bound : List String}
    {conditions : List InlineCondition} {before : List Token} {start : Nat} {after : List Token} :
    occurrencesFrom source context bound conditions before (⟨.word name, start⟩ :: after) =
      occurrencesFrom source context bound conditions (⟨.word name, start⟩ :: before) after := by
  have notRead : isRead context bound before name after = false := by
    rw [isRead, isKeyword]
    rfl
  have isWord : Token.word? ⟨.word name, start⟩ = some name := rfl
  rw [occurrencesFrom, isWord]
  simp [notRead]

theorem Occurrence.guarded_never : Occurrence.guarded (fun _ => false) = id := by
  funext occurrence
  simp [Occurrence.guarded]

theorem endsOperand_nil : EndsOperand [] :=
  fun _ isHead => nomatch isHead

theorem endsOperand_if (start : Nat) (rest : List Token) :
    EndsOperand (⟨.word "if", start⟩ :: rest) := by
  intro token isHead
  cases isHead
  exact Or.inl rfl

theorem endsOperand_else (start : Nat) (rest : List Token) :
    EndsOperand (⟨.word "else", start⟩ :: rest) := by
  intro token isHead
  cases isHead
  exact Or.inr rfl

/-- The reads of an operand inside a longer expression, in front of those behind it. -/
theorem occurrencesFrom_operand {text source front behind : List Char} {operand : Expression}
    (isOperand : IsOperand text operand) (whole : source = front ++ operand.source ++ behind)
    {context inner : Context} (noFilter : context ≠ .filter) (noFilterInner : inner ≠ .filter)
    {further extra : List Token} (starts : EndsOperand further) (ends : EndsOperand extra)
    (bound : List String) {conditions : List InlineCondition} {tested : String → Bool}
    (guards : ∀ position < operand.tokens.length, ∀ name,
      (context == .test || conditions.any (·.guards (position + further.length) name)) =
        (inner == .test || (InlineCondition.all [] operand.tokens).any (·.guards position name) ||
          tested name)) :
    occurrencesFrom source context bound conditions further
        (operand.tokens.map (Token.later front.length) ++ extra) =
      (operand.occurrences inner bound).map (Occurrence.guarded tested) ++
        occurrencesFrom source context bound conditions
          (operand.tokens.reverse.map (Token.later front.length) ++ further) extra := by
  have begins : ([] : List Token).reverse ++ operand.tokens = operand.tokens := rfl
  rw [whole]
  exact occurrencesFrom_excerpt isOperand.isRest noFilter noFilterInner starts ends bound guards
    begins

/-! ### By its parts -/

/-- The tokens of an inline condition from its `else`, which stands at the position `start`. -/
def Expression.elsePart (start : Nat) (other : Expression) : List Token :=
  ⟨.word "else", start⟩ :: other.tokens.map (Token.later (start + 5))

/-- The tokens of an inline condition from its `if`, which stands at the position `start`. -/
def Expression.ifPart (start : Nat) (test other : Expression) : List Token :=
  ⟨.word "if", start⟩ :: (test.tokens.map (Token.later (start + 3)) ++
    other.elsePart (start + 3 + test.source.length + 1))

/-- The text of an inline condition. -/
def inlineText (value test other : List Char) : List Char :=
  value ++ ' ' :: ("if".toList ++ ' ' :: (test ++ ' ' :: ("else".toList ++ ' ' :: other)))

/-- The inline condition of three expressions. -/
def Expression.inline (value test other : Expression) : Expression where
  source := inlineText value.source test.source other.source
  tokens := value.tokens ++ test.ifPart (value.source.length + 1) other

theorem Expression.endsOperand_elsePart (start : Nat) (other : Expression) :
    EndsOperand (other.elsePart start) :=
  endsOperand_else start _

theorem Expression.endsOperand_ifPart (start : Nat) (test other : Expression) :
    EndsOperand (test.ifPart start other) :=
  endsOperand_if start _

theorem Expression.source_inline_test (value test other : Expression) :
    (value.inline test other).source = (value.source ++ [' ', 'i', 'f', ' ']) ++ test.source ++
      ([' ', 'e', 'l', 's', 'e', ' '] ++ other.source) := by
  simp [inline, inlineText]

theorem Expression.source_inline_other (value test other : Expression) :
    (value.inline test other).source = (value.source ++ [' ', 'i', 'f', ' '] ++ test.source ++
      [' ', 'e', 'l', 's', 'e', ' ']) ++ other.source := by
  simp [inline, inlineText]

section Occurrences

variable {value test other : Expression}
  {valueText testText otherText source front behind : List Char}
  {bound : List String} {conditions : List InlineCondition} {before : List Token} {start : Nat}

/-- The operand behind the `else` is read as by itself. -/
theorem occurrencesFrom_elsePart (isOther : IsOperand otherText other)
    (whole : source = front ++ other.source) (begins : front.length = start + 5)
    (guards : ∀ position name, conditions.any (·.guards (position + (before.length + 1)) name) =
      (InlineCondition.all [] other.tokens).any (·.guards position name)) :
    occurrencesFrom source .plain bound conditions before (other.elsePart start) =
      other.occurrences .plain bound := by
  have isPlain : (Context.plain == Context.test) = false := rfl
  have inside : ∀ position < other.tokens.length, ∀ name,
      (Context.plain == .test || conditions.any (·.guards (position +
          (⟨.word "else", start⟩ :: before).length) name)) =
        (Context.plain == .test ||
          (InlineCondition.all [] other.tokens).any (·.guards position name) || false) := by
    intro position _ name
    rw [isPlain, Bool.false_or, Bool.false_or, Bool.or_false]
    exact guards position name
  have reads := occurrencesFrom_operand isOther (whole.trans (List.append_nil _).symm) (by decide)
    (by decide) (endsOperand_else start before) endsOperand_nil bound inside
  rw [List.append_nil, occurrencesFrom, List.append_nil, Occurrence.guarded_never, List.map_id]
    at reads
  rw [Expression.elsePart, occurrencesFrom_keyword rfl, ← begins, reads]

/-- Every read in the test is conditional. -/
theorem occurrencesFrom_ifPart (isTest : IsOperand testText test)
    (whole : source = front ++ test.source ++ behind) (begins : front.length = start + 3)
    (guards : ∀ position < test.tokens.length, ∀ name,
      conditions.any (·.guards (position + (before.length + 1)) name) = true) :
    occurrencesFrom source .plain bound conditions before (test.ifPart start other) =
      test.occurrences .test bound ++ occurrencesFrom source .plain bound conditions
        (test.tokens.reverse.map (Token.later (start + 3)) ++ ⟨.word "if", start⟩ :: before)
        (other.elsePart (start + 3 + test.source.length + 1)) := by
  have isPlain : (Context.plain == Context.test) = false := rfl
  have isTesting : (Context.test == Context.test) = true := rfl
  have inside : ∀ position < test.tokens.length, ∀ name,
      (Context.plain == .test || conditions.any (·.guards (position +
          (⟨.word "if", start⟩ :: before).length) name)) =
        (Context.test == .test ||
          (InlineCondition.all [] test.tokens).any (·.guards position name) || false) := by
    intro position inside name
    rw [isPlain, isTesting, Bool.false_or, Bool.true_or, Bool.true_or]
    exact guards position inside name
  have reads := occurrencesFrom_operand isTest whole (by decide) (by decide)
    (endsOperand_if start before)
    (other.endsOperand_elsePart (start + 3 + test.source.length + 1)) bound inside
  rw [Occurrence.guarded_never, List.map_id, begins] at reads
  rw [Expression.ifPart, occurrencesFrom_keyword rfl, reads]

/-- An inline condition reads what its parts read.  The reads in its value are conditional where
its test has their word. -/
theorem occurrences_inline (isValue : IsOperand valueText value) (isTest : IsOperand testText test)
    (isOther : IsOperand otherText other) :
    (value.inline test other).occurrences .plain bound =
      (value.occurrences .plain bound).map (Occurrence.guarded (wordsIn test.tokens).contains) ++
        (test.occurrences .test bound ++ other.occurrences .plain bound) := by
  have isPlain : (Context.plain == Context.test) = false := rfl
  have conditions : InlineCondition.all [] (value.inline test other).tokens =
      InlineCondition.joined value.tokens test.tokens other.tokens :=
    InlineCondition.all_eq_joined isValue.filled isValue.isClosed isTest.isClosed isOther.isClosed
      rfl rfl
  have inside : ∀ position < value.tokens.length, ∀ name,
      (Context.plain == .test || (InlineCondition.joined value.tokens test.tokens
          other.tokens).any (·.guards (position + ([] : List Token).length) name)) =
        (Context.plain == .test ||
          (InlineCondition.all [] value.tokens).any (·.guards position name) ||
          (wordsIn test.tokens).contains name) := by
    intro position inside name
    rw [isPlain, Bool.false_or, Bool.false_or]
    exact InlineCondition.joined_guards_value inside
  have whole : (value.inline test other).source = [] ++ value.source ++ _ := rfl
  have reads := occurrencesFrom_operand isValue whole (by decide) (by decide) endsOperand_nil
    (test.endsOperand_ifPart (value.source.length + 1) other) bound inside
  have beginsTest : (value.source ++ [' ', 'i', 'f', ' ']).length =
      value.source.length + 1 + 3 := by
    rw [List.length_append]
    rfl
  have beginsOther : (value.source ++ [' ', 'i', 'f', ' '] ++ test.source ++
      [' ', 'e', 'l', 's', 'e', ' ']).length =
        value.source.length + 1 + 3 + test.source.length + 1 + 5 := by
    rw [List.length_append, List.length_append, beginsTest]
    rfl
  have isTokens : (value.inline test other).tokens =
      value.tokens ++ test.ifPart (value.source.length + 1) other := rfl
  rw [List.length_nil, Token.later_zero, List.map_id, List.map_id, List.append_nil] at reads
  rw [Expression.occurrences, conditions, isTokens, reads,
    occurrencesFrom_ifPart isTest (value.source_inline_test test other) beginsTest,
    occurrencesFrom_elsePart isOther (value.source_inline_other test other) beginsOther]
  · intro position name
    have behind : (test.tokens.reverse.map (Token.later (value.source.length + 1 + 3)) ++
        ⟨.word "if", value.source.length + 1⟩ :: value.tokens.reverse).length + 1 =
          test.tokens.length + value.tokens.length + 2 := by
      simp
      omega
    rw [behind]
    exact InlineCondition.joined_guards_other
  · intro position inside name
    rw [List.length_reverse]
    exact InlineCondition.joined_guards_test inside

end Occurrences

/-! ### Its text -/

/-- Behind a list whose brackets pair up, those that were open before it are. -/
theorem pairBrackets_append {pending outer : List Bracket} {tokens : List Token}
    (pairs : pairBrackets pending tokens = .ok ()) (distance : Nat) (others : List Token) :
    pairBrackets (pending ++ outer) (tokens.map (Token.later distance) ++ others) =
      pairBrackets outer others := by
  induction tokens generalizing pending with
  | nil =>
      cases pending with
      | nil => rfl
      | cons bracket pending => cases pairs
  | cons token tokens ih =>
      rw [pairBrackets] at pairs
      rw [List.map_cons, List.cons_append, pairBrackets, Token.opens?_later, Token.closes?_later]
      split at pairs
      · exact ih pairs
      · split at pairs
        · rename_i bracket isInnermost
          cases pending with
          | nil => cases isInnermost
          | cons innermost pending =>
              cases isInnermost
              simpa using ih pairs
        · cases pairs
      · exact ih pairs

/-- A list whose brackets pair up may stand in front of another one. -/
theorem pairBrackets_behind {tokens : List Token} (pairs : pairBrackets [] tokens = .ok ())
    (distance : Nat) (others : List Token) :
    pairBrackets [] (tokens.map (Token.later distance) ++ others) = pairBrackets [] others :=
  pairBrackets_append pairs distance others

theorem pairBrackets_word (pending : List Bracket) (word : String) (start : Nat)
    (rest : List Token) :
    pairBrackets pending (⟨.word word, start⟩ :: rest) = pairBrackets pending rest := by
  rw [pairBrackets, opens?_word, closes?_word]

/-- A call of `super()` does not begin in front of one operand and end in another. -/
theorem anySuperCall_append {tokens extra : List Token} (none : anySuperCall tokens = false)
    (distance : Nat) (ends : EndsOperand extra) :
    anySuperCall (tokens.map (Token.later distance) ++ extra) = anySuperCall extra := by
  induction tokens with
  | nil => rfl
  | cons token tokens ih =>
      have same : ∀ name, callsSuper name (tokens.map (Token.later distance) ++ extra) =
          callsSuper name tokens := by
        intro name
        rw [callsSuper, callsSuper, ends.any_isSign]
      rw [anySuperCall, Bool.or_eq_false_iff] at none
      rw [List.map_cons, List.cons_append, anySuperCall, ih none.2, Token.word?_later]
      simp only [same, none.1, Bool.false_or]

theorem anySuperCall_word {word : String} (other : word ≠ "super") (start : Nat)
    (rest : List Token) : anySuperCall (⟨.word word, start⟩ :: rest) = anySuperCall rest := by
  simp [anySuperCall, Token.word?, callsSuper, other]

section Text

variable {value test other : Expression} {valueText testText otherText : List Char}

theorem reads_elsePart (isOther : IsOperand otherText other) (start : Nat) :
    Token.Reads start ("else".toList ++ ' ' :: otherText) (other.elsePart start) := by
  have isElse : IsWord "else" := by decide
  have word := Token.all_eq_ok_iff.mp (tokens_only_word isElse start)
  have behind := isOther.reads.later (start + 5)
  rw [Nat.zero_add] at behind
  exact word.spaced behind

theorem reads_ifPart (isTest : IsOperand testText test) (isOther : IsOperand otherText other)
    (start : Nat) :
    Token.Reads start
      ("if".toList ++ ' ' :: (testText ++ ' ' :: ("else".toList ++ ' ' :: otherText)))
      (test.ifPart start other) := by
  have isIf : IsWord "if" := by decide
  have word := Token.all_eq_ok_iff.mp (tokens_only_word isIf start)
  have behind := isTest.reads.later (start + 3)
  rw [Nat.zero_add] at behind
  apply word.spaced (behind.spaced _)
  rw [isTest.source]
  exact reads_elsePart isOther _

theorem pairBrackets_inline (isValue : IsOperand valueText value)
    (isTest : IsOperand testText test) (isOther : IsOperand otherText other) :
    pairBrackets [] (value.inline test other).tokens = .ok () := by
  have behindValue := pairBrackets_behind isValue.pairs 0
    (test.ifPart (value.source.length + 1) other)
  have behindOther := pairBrackets_behind isOther.pairs
    (value.source.length + 1 + 3 + test.source.length + 1 + 5) []
  rw [Token.later_zero, List.map_id] at behindValue
  rw [List.append_nil] at behindOther
  rw [Expression.inline, behindValue, Expression.ifPart, pairBrackets_word,
    pairBrackets_behind isTest.pairs, Expression.elsePart, pairBrackets_word, behindOther,
    pairBrackets]

/-- The text of an inline condition is read as the condition of what its parts are read as. -/
theorem ofText_inline (isValue : IsOperand valueText value) (isTest : IsOperand testText test)
    (isOther : IsOperand otherText other) :
    Expression.ofText (inlineText valueText testText otherText) =
      .ok (value.inline test other) := by
  have source : (value.inline test other).source = inlineText valueText testText otherText := by
    rw [Expression.inline, isValue.source, isTest.source, isOther.source]
  have reads : Token.Reads 0 (inlineText valueText testText otherText)
      (value.inline test other).tokens := by
    apply isValue.reads.spaced
    rw [Nat.zero_add, isValue.source]
    exact reads_ifPart isTest isOther _
  exact Expression.ofText_eq_ok_iff.mpr ⟨source, reads, pairBrackets_inline isValue isTest isOther⟩

/-- An inline condition calls `super()` only in its parts. -/
theorem callsSuper_inline (isValue : IsOperand valueText value) (isTest : IsOperand testText test)
    (isOther : IsOperand otherText other) : (value.inline test other).callsSuper = false := by
  have behindValue := anySuperCall_append isValue.noSuper 0
    (test.endsOperand_ifPart (value.source.length + 1) other)
  have behindOther := anySuperCall_append isOther.noSuper
    (value.source.length + 1 + 3 + test.source.length + 1 + 5) endsOperand_nil
  rw [Token.later_zero, List.map_id] at behindValue
  rw [List.append_nil] at behindOther
  rw [Expression.callsSuper, Expression.inline, behindValue, Expression.ifPart,
    anySuperCall_word (by decide),
    anySuperCall_append isTest.noSuper _ (other.endsOperand_elsePart _), Expression.elsePart,
    anySuperCall_word (by decide), behindOther, anySuperCall]

end Text

end Lineage.Template
