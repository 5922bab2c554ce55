import Lineage.Proofs.InlineConditions
import Mathlib.Data.List.Forall2

/-!
# Expressions in which an attribute has another name

A word behind a point names an attribute.  Two token lists are renamings of each other if they say
the same, except that in some places the one has the attribute `old` where the other has `new`
(`Renames`).  Brackets, separators and keywords stand at the same places in both, so that the lists
are cut alike, and they have the same reads up to the descriptions of fallbacks
(`Renames.occurrences`).

Four searches for a word do not look for a point in front of it: a call of `super`, the `is` of a
test, and the `if` and the `else` of an inline condition.  For these the names have to be inert.  A
condition also compares the words of its test with the names that are read in its value, whether or
not they are attributes.  In an expression with a condition, the two names must therefore stand
apart from the variables.
-/

namespace Lineage.Template

/-! ## Descriptions left out -/

/-- The guard without the description of its fallback. -/
def Guard.undescribed : Guard → Guard
  | .fallback _ => .fallback ""
  | guard => guard

/-- The occurrence without the description of its fallback. -/
def Occurrence.undescribed (occurrence : Occurrence) : Occurrence :=
  { occurrence with guard := occurrence.guard.undescribed }

theorem none_or_some_of_isSome_eq {α : Type} {first second : Option α}
    (same : first.isSome = second.isSome) :
    (first = none ∧ second = none) ∨ ∃ a b, first = some a ∧ second = some b := by
  cases first with
  | none =>
      have isNone := Option.isSome_eq_false_iff.mp same.symm
      exact Or.inl ⟨rfl, Option.isNone_iff_eq_none.mp isNone⟩
  | some a =>
      rcases Option.isSome_iff_exists.mp same.symm with ⟨b, isSome⟩
      exact Or.inr ⟨a, b, rfl, isSome⟩

/-! ## Renamed attributes -/

/-- In front of these tokens, an attribute with this name counts neither as a call of `super` nor as
the word in front of a test. -/
structure IsInertName (name : String) (after : List Token) : Prop where
  noCall : name = "super" → after.head?.any (·.isSign "(") = false
  noTest : name = "is" → after.head?.any (·.word?.isSome) = false

/-- Two lists of tokens that say the same, except for the names of some attributes: `old` in the
first and `new` in the second.  The lists stand behind a point if they are `dotted`.  If the names
stand `apart` from the variables, neither of them is a word that is no attribute. -/
inductive Renames (apart : Prop) (old new : String) :
    (dotted : Bool) → (tokens renamed : List Token) → Prop
  | nil (dotted : Bool) : Renames apart old new dotted [] []
  | same {dotted : Bool} {first first' : Token} {rest rest' : List Token}
      (lexeme : first.lexeme = first'.lexeme)
      (free : apart → dotted = false → ∀ name ∈ first.word?, name ≠ old ∧ name ≠ new)
      (others : Renames apart old new (first.isSign ".") rest rest') :
      Renames apart old new dotted (first :: rest) (first' :: rest')
  | changed {first first' : Token} {rest rest' : List Token}
      (isOld : first.word? = some old) (isNew : first'.word? = some new)
      (inertOld : IsInertName old rest) (inertNew : IsInertName new rest)
      (others : Renames apart old new false rest rest') :
      Renames apart old new true (first :: rest) (first' :: rest')

/-- Two tokens that say the same, except that both may be words: `old` and `new`. -/
inductive Token.Alike (old new : String) : Token → Token → Prop
  | same {token token' : Token} (lexeme : token.lexeme = token'.lexeme) :
      Token.Alike old new token token'
  | changed {token token' : Token} (isOld : token.word? = some old)
      (isNew : token'.word? = some new) : Token.Alike old new token token'

theorem Token.word?_eq_some_iff {token : Token} {name : String} :
    token.word? = some name ↔ token.lexeme = .word name := by
  unfold word?
  split
  · rename_i isWord
    rw [isWord, Option.some.injEq, Lexeme.word.injEq]
  · rename_i noWord
    constructor
    · intro found
      cases found
    · intro isWord
      exact absurd isWord (noWord name)

/-- No sign is a word. -/
theorem Token.isSign_of_word? {token : Token} {name : String} (isWord : token.word? = some name)
    (sign : String) : token.isSign sign = false := by
  rw [isSign, word?_eq_some_iff.mp isWord]
  rfl

theorem Token.isSign_of_isWord {token : Token} {name : String} (isWord : token.isWord name = true)
    (sign : String) : token.isSign sign = false := by
  rw [Token.isWord, beq_iff_eq, ← word?_eq_some_iff] at isWord
  exact isSign_of_word? isWord sign

theorem Token.isWord_of_word? {token : Token} {name : String} (isWord : token.word? = some name)
    (word : String) : token.isWord word = (name == word) := by
  rw [Token.isWord, word?_eq_some_iff.mp isWord]
  by_cases same : name = word
  · rw [same, beq_self_eq_true, beq_self_eq_true]
  · rw [beq_eq_false_iff_ne.mpr same, beq_eq_false_iff_ne, Ne, Lexeme.word.injEq]
    exact same

namespace Token.Alike

variable {old new : String} {token token' : Token} (alike : Token.Alike old new token token')
include alike

theorem isSign_eq (sign : String) : token.isSign sign = token'.isSign sign := by
  cases alike with
  | same lexeme => rw [isSign, isSign, lexeme]
  | changed isOld isNew => rw [isSign_of_word? isOld, isSign_of_word? isNew]

theorem isWord_eq {word : String} (noOld : old ≠ word) (noNew : new ≠ word) :
    token.isWord word = token'.isWord word := by
  cases alike with
  | same lexeme => rw [isWord, isWord, lexeme]
  | changed isOld isNew =>
      rw [isWord_of_word? isOld, isWord_of_word? isNew, beq_eq_false_iff_ne.mpr noOld,
        beq_eq_false_iff_ne.mpr noNew]

theorem isSome_word?_eq : token.word?.isSome = token'.word?.isSome := by
  cases alike with
  | same lexeme => rw [word?, word?, lexeme]
  | changed isOld isNew => rw [isOld, isNew]; rfl

theorem opens?_eq : token.opens? = token'.opens? := by
  simp only [opens?, alike.isSign_eq]

theorem closes?_eq : token.closes? = token'.closes? := by
  simp only [closes?, alike.isSign_eq]

theorem depthAfter_eq (depth : Nat) : token.depthAfter depth = token'.depthAfter depth := by
  rw [depthAfter, depthAfter, alike.opens?_eq, alike.closes?_eq]

end Token.Alike

theorem Token.isSign_point_of_closes? {token : Token} (closes : token.closes?.isSome = true) :
    token.isSign "." = false := by
  rw [← Bool.not_eq_true]
  intro isPoint
  rw [isSign, beq_iff_eq] at isPoint
  simp [closes?, isSign, isPoint, Bracket.closing] at closes

theorem Token.word?_eq_of_lexeme {token token' : Token} (lexeme : token.lexeme = token'.lexeme) :
    token.word? = token'.word? := by
  rw [word?, word?, lexeme]

namespace Renames

variable {apart : Prop} {old new : String} {dotted : Bool} {tokens renamed : List Token}

/-- The tokens of the two lists are alike, one by one. -/
theorem alike (renames : Renames apart old new dotted tokens renamed) :
    List.Forall₂ (Token.Alike old new) tokens renamed := by
  induction renames with
  | nil => exact .nil
  | same lexeme _ _ ih => exact .cons (.same lexeme) ih
  | changed isOld isNew _ _ _ ih => exact .cons (.changed isOld isNew) ih

theorem head?_any_eq (renames : Renames apart old new dotted tokens renamed) {p : Token → Bool}
    (kept : ∀ {token token' : Token}, Token.Alike old new token token' → p token = p token') :
    tokens.head?.any p = renamed.head?.any p := by
  cases renames.alike with
  | nil => rfl
  | cons first _ => exact kept first

theorem head?_isSign_eq (renames : Renames apart old new dotted tokens renamed) (sign : String) :
    tokens.head?.any (·.isSign sign) = renamed.head?.any (·.isSign sign) :=
  renames.head?_any_eq fun alike => alike.isSign_eq sign

theorem eq_nil (renames : Renames apart old new dotted [] renamed) : renamed = [] :=
  List.forall₂_nil_left_iff.mp renames.alike

theorem exists_cons {first : Token} {rest : List Token}
    (renames : Renames apart old new dotted (first :: rest) renamed) :
    ∃ first' rest', renamed = first' :: rest' := by
  cases renames with
  | same _ _ _ => exact ⟨_, _, rfl⟩
  | changed _ _ _ _ _ => exact ⟨_, _, rfl⟩

/-! ### Cuts -/

theorem groupSize_eq (renames : Renames apart old new dotted tokens renamed) (depth : Nat) :
    groupSize depth tokens = groupSize depth renamed := by
  have alike := renames.alike
  clear renames
  induction alike generalizing depth with
  | nil => rfl
  | cons first _ ih =>
      rw [groupSize, groupSize, first.closes?_eq, first.depthAfter_eq, ih]

theorem prepend {first first' : Token} {rest rest' part part' : List Token}
    (renames : Renames apart old new dotted (first :: rest) (first' :: rest'))
    (isPrefix : part <+: rest)
    (others : Renames apart old new (first.isSign ".") part part') :
    Renames apart old new dotted (first :: part) (first' :: part') := by
  have head {p : Token → Bool} (none : rest.head?.any p = false) : part.head?.any p = false := by
    cases part with
    | nil => rfl
    | cons token part =>
        rcases isPrefix with ⟨more, rfl⟩
        exact none
  cases renames with
  | same lexeme free _ => exact .same lexeme free others
  | changed isOld isNew inertOld inertNew _ =>
      rw [Token.isSign_of_word? isOld] at others
      refine .changed isOld isNew ⟨?_, ?_⟩ ⟨?_, ?_⟩ others
      · exact fun called => head (inertOld.noCall called)
      · exact fun tested => head (inertOld.noTest tested)
      · exact fun called => head (inertNew.noCall called)
      · exact fun tested => head (inertNew.noTest tested)

theorem behind {first first' : Token} {rest rest' : List Token}
    (renames : Renames apart old new dotted (first :: rest) (first' :: rest')) :
    Renames apart old new (first.isSign ".") rest rest' := by
  cases renames with
  | same _ _ others => exact others
  | changed isOld _ _ _ others =>
      rw [Token.isSign_of_word? isOld]
      exact others

theorem first_alike {first first' : Token} {rest rest' : List Token}
    (renames : Renames apart old new dotted (first :: rest) (first' :: rest')) :
    Token.Alike old new first first' :=
  (List.forall₂_cons.mp renames.alike).1

/-- Where no point stands in front, the first tokens say the same. -/
theorem first_lexeme {first first' : Token} {rest rest' : List Token}
    (renames : Renames apart old new false (first :: rest) (first' :: rest')) :
    first.lexeme = first'.lexeme := by
  cases renames with
  | same lexeme _ _ => exact lexeme

theorem take (renames : Renames apart old new dotted tokens renamed) (count : Nat) :
    Renames apart old new dotted (tokens.take count) (renamed.take count) := by
  induction tokens generalizing dotted renamed count with
  | nil =>
      cases renames
      rw [List.take_nil]
      exact .nil _
  | cons first rest ih =>
      cases count with
      | zero => exact .nil _
      | succ count =>
          rcases renames.exists_cons with ⟨first', rest', rfl⟩
          exact renames.prepend (List.take_prefix count rest) (ih renames.behind count)

theorem dropLast (renames : Renames apart old new dotted tokens renamed) :
    Renames apart old new dotted tokens.dropLast renamed.dropLast := by
  rw [List.dropLast_eq_take, List.dropLast_eq_take, ← renames.alike.length_eq]
  exact renames.take _

theorem drop_groupSize (renames : Renames apart old new dotted tokens renamed) (depth : Nat) :
    Renames apart old new false (tokens.drop (groupSize depth tokens))
      (renamed.drop (groupSize depth renamed)) := by
  induction tokens generalizing dotted renamed depth with
  | nil =>
      rw [renames.eq_nil]
      exact .nil _
  | cons first rest ih =>
      rcases renames.exists_cons with ⟨first', rest', rfl⟩
      have alike := renames.first_alike
      rw [groupSize, groupSize, ← alike.closes?_eq, ← alike.depthAfter_eq]
      split
      · rename_i ends
        have others := renames.behind
        rw [Token.isSign_point_of_closes? (Bool.and_eq_true_iff.mp ends).1] at others
        exact others
      · exact ih renames.behind _

theorem group (renames : Renames apart old new dotted tokens renamed) :
    Renames apart old new dotted (group tokens) (Template.group renamed) := by
  rw [Template.group, Template.group, renames.groupSize_eq]
  exact renames.take _

theorem afterGroup (renames : Renames apart old new dotted tokens renamed) :
    Renames apart old new false (afterGroup tokens) (Template.afterGroup renamed) :=
  renames.drop_groupSize 0

/-! ### Fallbacks -/

theorem afterSuffixes (renames : Renames apart old new false tokens renamed) :
    Renames apart old new false (afterSuffixes tokens) (Template.afterSuffixes renamed) := by
  induction tokens using suffixes_induction generalizing renamed with
  | nil =>
      rw [renames.eq_nil, Template.afterSuffixes]
      exact .nil _
  | other first rest noPoint noBracket =>
      rcases renames.exists_cons with ⟨first', rest', rfl⟩
      have noPoint' := noPoint
      have noBracket' := noBracket
      rw [renames.first_alike.isSign_eq] at noPoint'
      rw [renames.first_alike.isSign_eq, renames.first_alike.isSign_eq] at noBracket'
      rw [afterSuffixes_of_other noPoint noBracket, afterSuffixes_of_other noPoint' noBracket']
      exact renames
  | noName point rest isPoint noName =>
      rcases renames.exists_cons with ⟨point', rest', rfl⟩
      have isPoint' := isPoint
      have noName' := noName
      rw [renames.first_alike.isSign_eq] at isPoint'
      rw [renames.behind.head?_any_eq fun alike => alike.isSome_word?_eq] at noName'
      rw [afterSuffixes_of_noName isPoint noName, afterSuffixes_of_noName isPoint' noName']
      exact renames
  | name point name rest isPoint isWord ih =>
      rcases renames.exists_cons with ⟨point', _, rfl⟩
      rcases renames.behind.exists_cons with ⟨name', rest', rfl⟩
      have isPoint' := isPoint
      have isWord' := isWord
      rw [renames.first_alike.isSign_eq] at isPoint'
      rw [renames.behind.first_alike.isSome_word?_eq] at isWord'
      rw [afterSuffixes_of_name isPoint isWord, afterSuffixes_of_name isPoint' isWord']
      apply ih
      obtain ⟨word, found⟩ := Option.isSome_iff_exists.mp isWord
      have others := renames.behind.behind
      rwa [Token.isSign_of_word? found] at others
  | bracket first rest noPoint isBracket ih =>
      rcases renames.exists_cons with ⟨first', rest', rfl⟩
      have noPoint' := noPoint
      have isBracket' := isBracket
      rw [renames.first_alike.isSign_eq] at noPoint'
      rw [renames.first_alike.isSign_eq, renames.first_alike.isSign_eq] at isBracket'
      rw [afterSuffixes_of_bracket noPoint isBracket,
        afterSuffixes_of_bracket noPoint' isBracket']
      exact ih renames.afterGroup

theorem afterArguments (renames : Renames apart old new false tokens renamed) :
    Renames apart old new false (afterArguments tokens) (Template.afterArguments renamed) := by
  rw [Template.afterArguments, Template.afterArguments, ← renames.head?_isSign_eq]
  split
  · exact renames.afterGroup
  · exact renames

variable {source source' : List Char}

/-- The name of a filter stands behind a bar, so that it is the same. -/
theorem filter_eq {bar bar' : Token} {rest rest' : List Token}
    (renames : Renames apart old new false (bar :: rest) (bar' :: rest'))
    (isBar : bar.isSign "|" = true) :
    bar'.isSign "|" = true ∧ rest'.head?.bind Token.word? = rest.head?.bind Token.word? := by
  refine ⟨by rwa [← renames.first_alike.isSign_eq], ?_⟩
  have others := renames.behind
  rw [Token.isSign_eq_false isBar (by decide)] at others
  cases rest with
  | nil => rw [others.eq_nil]
  | cons name rest =>
      rcases others.exists_cons with ⟨name', rest', rfl⟩
      exact (Token.word?_eq_of_lexeme others.first_lexeme).symm

theorem isSome_filterDescription?_eq (renames : Renames apart old new false tokens renamed) :
    (filterDescription? source tokens).isSome = (filterDescription? source' renamed).isSome := by
  induction tokens using filters_induction generalizing renamed with
  | noBar tokens noBar =>
      have noBar' := noBar
      rw [renames.head?_isSign_eq] at noBar'
      rw [filterDescription?_of_noBar noBar, filterDescription?_of_noBar noBar']
  | noName bar rest isBar noName =>
      rcases renames.exists_cons with ⟨bar', rest', rfl⟩
      have noName' := (renames.filter_eq isBar).2.trans noName
      rw [filterDescription?_of_noName noName, filterDescription?_of_noName noName']
  | default bar name rest filter isBar isWord isDefault =>
      rcases renames.exists_cons with ⟨bar', _, rfl⟩
      rcases renames.behind.exists_cons with ⟨name', rest', rfl⟩
      obtain ⟨isBar', sameWord⟩ := renames.filter_eq isBar
      rw [filterDescription?_of_default isBar isWord isDefault,
        filterDescription?_of_default isBar' (sameWord.trans isWord) isDefault]
      rfl
  | filter bar name rest filter isBar isWord noDefault ih =>
      rcases renames.exists_cons with ⟨bar', _, rfl⟩
      rcases renames.behind.exists_cons with ⟨name', rest', rfl⟩
      obtain ⟨isBar', sameWord⟩ := renames.filter_eq isBar
      rw [filterDescription?_of_filter isBar isWord noDefault,
        filterDescription?_of_filter isBar' (sameWord.trans isWord) noDefault]
      have others := renames.behind.behind
      rw [Token.isSign_of_word? isWord] at others
      exact ih others.afterArguments

/-- A read has a fallback in both lists or in none. -/
theorem isSome_fallback?_eq (renames : Renames apart old new false tokens renamed) :
    (fallback? source tokens).isSome = (fallback? source' renamed).isSome := by
  have others := renames.afterSuffixes
  rw [fallback?, fallback?]
  cases found : Template.afterSuffixes tokens with
  | nil =>
      rw [found] at others
      rw [others.eq_nil]
  | cons first rest =>
      rw [found] at others
      rcases others.exists_cons with ⟨first', rest', isRenamed⟩
      rw [isRenamed] at others ⊢
      have isOr : first'.isWord "or" = first.isWord "or" := by
        rw [Token.isWord, Token.isWord, others.first_lexeme]
      dsimp only
      rw [isOr]
      split
      · cases rest with
        | nil => rw [others.behind.eq_nil, operandDescription?, operandDescription?]
        | cons operand more =>
            rcases others.behind.exists_cons with ⟨operand', more', rfl⟩
            rw [operandDescription?, operandDescription?]
            rfl
      · exact others.isSome_filterDescription?_eq

end Renames

/-! ### Inline conditions -/

section Conditions

variable {old new : String} {tokens renamed before before' : List Token}

theorem testLength_alike (noElse : old ≠ "else" ∧ new ≠ "else")
    (alike : List.Forall₂ (Token.Alike old new) tokens renamed) (depth : Nat) :
    testLength depth tokens = testLength depth renamed := by
  induction alike generalizing depth with
  | nil => rfl
  | cons first _ ih =>
      rw [testLength, testLength, first.closes?_eq, first.isSign_eq,
        first.isWord_eq noElse.1 noElse.2, first.depthAfter_eq, ih]

theorem valueLength_alike (noElse : old ≠ "else" ∧ new ≠ "else")
    (alike : List.Forall₂ (Token.Alike old new) before before') (depth : Nat) :
    valueLength depth before = valueLength depth before' := by
  induction alike generalizing depth with
  | nil => rfl
  | cons first _ ih =>
      rw [valueLength, valueLength, first.closes?_eq, first.opens?_eq, first.isSign_eq,
        first.isWord_eq noElse.1 noElse.2, ih, ih, ih]

/-- A word that is neither of the names is in both lists or in none. -/
theorem mem_wordsIn_alike (alike : List.Forall₂ (Token.Alike old new) tokens renamed)
    {name : String} (free : name ≠ old ∧ name ≠ new) :
    name ∈ wordsIn tokens ↔ name ∈ wordsIn renamed := by
  have words : name ∈ tokens.filterMap Token.word? ↔ name ∈ renamed.filterMap Token.word? := by
    induction alike with
    | nil => exact Iff.rfl
    | @cons first first' _ _ alike _ ih =>
        rw [List.filterMap_cons, List.filterMap_cons]
        cases alike with
        | same lexeme =>
            rw [Token.word?_eq_of_lexeme lexeme]
            cases first'.word? with
            | none => exact ih
            | some word => rw [List.mem_cons, List.mem_cons, ih]
        | changed isOld isNew =>
            rw [isOld, isNew, List.mem_cons, List.mem_cons, ih]
            simp [free]
  rw [wordsIn, wordsIn, List.mem_filter, List.mem_filter, words]

/-- Without the one name, the words are the same. -/
theorem wordsIn_eq_of_alike (alike : List.Forall₂ (Token.Alike old new) tokens renamed)
    (noOld : ∀ token ∈ tokens, token.word? ≠ some old) : wordsIn tokens = wordsIn renamed := by
  have words : tokens.filterMap Token.word? = renamed.filterMap Token.word? := by
    induction alike with
    | nil => rfl
    | @cons first first' _ _ alike _ ih =>
        rcases List.forall_mem_cons.mp noOld with ⟨here, there⟩
        rw [List.filterMap_cons, List.filterMap_cons, ih there]
        cases alike with
        | same lexeme => rw [Token.word?_eq_of_lexeme lexeme]
        | changed isOld _ => exact absurd isOld here
  rw [wordsIn, wordsIn, words]

/-- The name is a word in the test of an inline condition. -/
def TestsWord (tokens : List Token) (name : String) : Prop :=
  ∃ before condition rest, tokens = before ++ condition :: rest ∧ before ≠ [] ∧
    condition.isWord "if" = true ∧ ∃ token ∈ rest.take (testLength 0 rest), token.word? = some name

namespace InlineCondition

theorem all_ne_nil {front rest : List Token} {condition : Token}
    (isIf : condition.isWord "if" = true) (filled : before ≠ [] ∨ front ≠ []) :
    InlineCondition.all before (front ++ condition :: rest) ≠ [] := by
  induction front generalizing before with
  | nil =>
      rw [List.nil_append, all_cons_of_if isIf (filled.resolve_right (by simp))]
      exact List.cons_ne_nil _ _
  | cons first front ih =>
      rw [List.cons_append, InlineCondition.all]
      split
      · exact List.cons_ne_nil _ _
      · exact ih (Or.inl (List.cons_ne_nil _ _))

/-- Two conditions at the same place.  Their tests have the same words, other than the names. -/
structure Alike (old new : String) (condition condition' : InlineCondition) : Prop where
  valueStart : condition.valueStart = condition'.valueStart
  position : condition.position = condition'.position
  testEnd : condition.testEnd = condition'.testEnd
  tested : ∀ name, name ≠ old ∧ name ≠ new →
    (name ∈ condition.tested ↔ name ∈ condition'.tested)

theorem around_alike (noElse : old ≠ "else" ∧ new ≠ "else")
    (alikeBefore : List.Forall₂ (Token.Alike old new) before before')
    (alike : List.Forall₂ (Token.Alike old new) tokens renamed) :
    Alike old new (around before tokens) (around before' renamed) where
  valueStart := by
    simp only [around, alikeBefore.length_eq, valueLength_alike noElse alikeBefore]
  position := alikeBefore.length_eq
  testEnd := by simp only [around, alikeBefore.length_eq, testLength_alike noElse alike]
  tested name free := by
    simp only [around, testLength_alike noElse alike]
    exact mem_wordsIn_alike (List.forall₂_take _ alike) free

theorem around_eq (noElse : old ≠ "else" ∧ new ≠ "else")
    (alikeBefore : List.Forall₂ (Token.Alike old new) before before')
    (alike : List.Forall₂ (Token.Alike old new) tokens renamed)
    (untested : ∀ token ∈ tokens.take (testLength 0 tokens), token.word? ≠ some old) :
    around before tokens = around before' renamed := by
  simp only [around, alikeBefore.length_eq, valueLength_alike noElse alikeBefore,
    ← testLength_alike noElse alike, wordsIn_eq_of_alike (List.forall₂_take _ alike) untested]

/-- Conditions at the same places are related if they are related wherever an `if` stands. -/
theorem forall₂_all {R : InlineCondition → InlineCondition → Prop}
    (noIf : old ≠ "if" ∧ new ≠ "if")
    (alikeBefore : List.Forall₂ (Token.Alike old new) before before')
    (alike : List.Forall₂ (Token.Alike old new) tokens renamed)
    (related : ∀ front front' condition rest rest',
      before.reverse ++ tokens = front.reverse ++ condition :: rest → front ≠ [] →
        condition.isWord "if" = true → List.Forall₂ (Token.Alike old new) front front' →
          List.Forall₂ (Token.Alike old new) rest rest' → R (around front rest) (around front' rest')) :
    List.Forall₂ R (InlineCondition.all before tokens) (InlineCondition.all before' renamed) := by
  induction alike generalizing before before' with
  | nil => exact .nil
  | @cons first first' rest rest' alikeFirst alike ih =>
      have others := ih (.cons alikeFirst alikeBefore) (by simpa using related)
      have isEmpty : before.isEmpty = before'.isEmpty := by
        cases alikeBefore <;> rfl
      rw [InlineCondition.all, InlineCondition.all, ← alikeFirst.isWord_eq noIf.1 noIf.2,
        ← isEmpty]
      split
      · rename_i isCondition
        rw [Bool.and_eq_true_iff, Bool.not_eq_true', List.isEmpty_eq_false_iff] at isCondition
        exact .cons (related before before' first rest rest' rfl isCondition.2 isCondition.1
          alikeBefore alike) others
      · exact others

theorem all_alike (noIf : old ≠ "if" ∧ new ≠ "if") (noElse : old ≠ "else" ∧ new ≠ "else")
    (alike : List.Forall₂ (Token.Alike old new) tokens renamed) :
    List.Forall₂ (Alike old new) (InlineCondition.all [] tokens)
      (InlineCondition.all [] renamed) := by
  apply forall₂_all noIf .nil alike
  intro front front' _ rest rest' _ _ _ alikeFront alikeRest
  exact around_alike noElse alikeFront alikeRest

/-- The conditions are the same if the one name is in no test. -/
theorem all_eq_of_alike (noIf : old ≠ "if" ∧ new ≠ "if") (noElse : old ≠ "else" ∧ new ≠ "else")
    (alike : List.Forall₂ (Token.Alike old new) tokens renamed)
    (untested : ¬ TestsWord tokens old) :
    InlineCondition.all [] tokens = InlineCondition.all [] renamed := by
  rw [← List.forall₂_eq_eq_eq]
  apply forall₂_all noIf .nil alike
  intro front front' condition rest rest' split filled isIf alikeFront alikeRest
  apply around_eq noElse alikeFront alikeRest
  intro token inTest isOld
  exact untested ⟨front.reverse, condition, rest, split, by simpa using filled, isIf, token, inTest,
    isOld⟩

/-- Without a condition in the one list there is none in the other. -/
theorem all_eq_nil_of_alike (noIf : old ≠ "if" ∧ new ≠ "if")
    (alike : List.Forall₂ (Token.Alike old new) tokens renamed)
    (none : InlineCondition.all [] tokens = []) : InlineCondition.all [] renamed = [] := by
  have related : List.Forall₂ (fun _ _ => True) (InlineCondition.all [] tokens)
      (InlineCondition.all [] renamed) :=
    forall₂_all noIf .nil alike fun _ _ _ _ _ _ _ _ _ _ => trivial
  rw [none] at related
  exact List.forall₂_nil_left_iff.mp related

/-- What conditions at the same places guard, other than words with one of the names. -/
theorem any_guards_alike {conditions conditions' : List InlineCondition}
    (alike : List.Forall₂ (Alike old new) conditions conditions') (position : Nat) {name : String}
    (free : name ≠ old ∧ name ≠ new) :
    conditions.any (·.guards position name) = conditions'.any (·.guards position name) := by
  induction alike with
  | nil => rfl
  | @cons condition condition' _ _ alike _ ih =>
      have tested : condition.tested.contains name = condition'.tested.contains name := by
        rw [Bool.eq_iff_iff, List.contains_iff_mem, List.contains_iff_mem]
        exact alike.tested name free
      rw [List.any_cons, List.any_cons, ih, guards, guards, alike.valueStart, alike.position,
        alike.testEnd, tested]

end InlineCondition

theorem TestsWord.all_ne_nil {name : String} (tests : TestsWord tokens name) :
    InlineCondition.all [] tokens ≠ [] := by
  rcases tests with ⟨front, condition, rest, rfl, filled, isIf, _⟩
  exact InlineCondition.all_ne_nil isIf (Or.inr filled)

end Conditions

/-! ### Reads -/

theorem namesTest_cons (last : Token) (before : List Token) :
    namesTest (last :: before) =
      (last.isWord "is" || (last.isWord "not" && before.head?.any (·.isWord "is"))) := by
  cases before with
  | nil => rw [namesTest, List.head?_nil, Option.any_none, Bool.and_false, Bool.or_false]
  | cons previous before => rw [namesTest, List.head?_cons, Option.any_some]

/-- Two lists of tokens, given in reverse, behind which the tokens `rest` are read alike.  They end
in a point if what follows is `dotted`. -/
structure AgreeBehind (dotted : Bool) (before before' rest : List Token) : Prop where
  isEmpty : before.isEmpty = before'.isEmpty
  isDotted : before.head?.any (·.isSign ".") = dotted
  isDotted' : before'.head?.any (·.isSign ".") = dotted
  bar : before.head?.any (·.isSign "|") = before'.head?.any (·.isSign "|")
  /-- They name a test alike if a word follows. -/
  test : rest.head?.any (·.word?.isSome) = true → namesTest before = namesTest before' ∧
    before.head?.any (·.isWord "is") = before'.head?.any (·.isWord "is")

theorem AgreeBehind.nil (rest : List Token) : AgreeBehind false [] [] rest :=
  ⟨rfl, rfl, rfl, rfl, fun _ => ⟨rfl, rfl⟩⟩

/-- Behind a point nothing is read. -/
theorem isRead_of_point {context : Context} {bound : List String} {before after : List Token}
    {name : String} (isPoint : before.head?.any (·.isSign ".") = true) :
    isRead context bound before name after = false := by
  have isEither : before.head?.any (fun token => token.isSign "." || token.isSign "|") = true := by
    cases before with
    | nil => cases isPoint
    | cons last before =>
        rw [List.head?_cons, Option.any_some] at isPoint ⊢
        rw [isPoint, Bool.true_or]
  simp [isRead, isEither]

theorem AgreeBehind.isRead_eq {dotted : Bool} {before before' : List Token} {first : Token}
    {rest rest' : List Token} {name : String} (agree : AgreeBehind dotted before before' (first :: rest))
    (isWord : first.word? = some name)
    (sameSigns : ∀ sign, rest.head?.any (·.isSign sign) = rest'.head?.any (·.isSign sign))
    (context : Context) (bound : List String) :
    isRead context bound before name rest = isRead context bound before' name rest' := by
  have either (before : List Token) :
      before.head?.any (fun token => token.isSign "." || token.isSign "|") =
        (before.head?.any (·.isSign ".") || before.head?.any (·.isSign "|")) := by
    cases before <;> rfl
  have test := (agree.test (by rw [List.head?_cons, Option.any_some, isWord]; rfl)).1
  rw [isRead, isRead, callsSuper, callsSuper, sameSigns "(", sameSigns "=", agree.isEmpty, either,
    either, agree.isDotted, agree.isDotted', agree.bar, test]

namespace Renames

variable {apart : Prop} {old new : String} {dotted : Bool} {tokens renamed : List Token}

theorem agreeBehind {first first' : Token} {rest rest' before before' : List Token}
    (renames : Renames apart old new dotted (first :: rest) (first' :: rest'))
    (agree : AgreeBehind dotted before before' (first :: rest)) :
    AgreeBehind (first.isSign ".") (first :: before) (first' :: before') rest where
  isEmpty := rfl
  isDotted := rfl
  isDotted' := (renames.first_alike.isSign_eq ".").symm
  bar := renames.first_alike.isSign_eq "|"
  test isWord := by
    rw [namesTest_cons, namesTest_cons, List.head?_cons, List.head?_cons, Option.any_some,
      Option.any_some]
    cases renames with
    | same lexeme _ _ =>
        have sameWord (word : String) : first'.isWord word = first.isWord word := by
          rw [Token.isWord, Token.isWord, lexeme]
        rw [sameWord, sameWord]
        refine ⟨?_, rfl⟩
        by_cases isNot : first.isWord "not" = true
        · have isSome : first.word?.isSome = true := by
            rw [Token.isWord, beq_iff_eq] at isNot
            rw [Token.word?_eq_some_iff.mpr isNot]
            rfl
          rw [(agree.test isSome).2]
        · rw [Bool.not_eq_true] at isNot
          rw [isNot, Bool.false_and, Bool.false_and]
    | changed isOld isNew inertOld inertNew _ =>
        -- What stands in front of the names is a point, so that no `is` stands there.
        have noIs {before : List Token} (isPoint : before.head?.any (·.isSign ".") = true) :
            before.head?.any (·.isWord "is") = false := by
          cases before with
          | nil => rfl
          | cons last before =>
              rw [List.head?_cons, Option.any_some, Token.isSign, beq_iff_eq] at isPoint
              rw [List.head?_cons, Option.any_some, Token.isWord, isPoint]
              rfl
        have notIs {name : String} (inert : IsInertName name rest) : (name == "is") = false := by
          rw [beq_eq_false_iff_ne]
          intro isName
          rw [inert.noTest isName] at isWord
          cases isWord
        rw [noIs agree.isDotted, noIs agree.isDotted', Token.isWord_of_word? isOld,
          Token.isWord_of_word? isNew, notIs inertOld, notIs inertNew, Bool.and_false,
          Bool.and_false]
        exact ⟨rfl, rfl⟩

/-- The reads of the two lists are the same up to the descriptions of fallbacks, if their conditions
guard the same words. -/
theorem occurrencesFrom_eq {before before' : List Token}
    {conditions conditions' : List InlineCondition} {source source' : List Char} {context : Context}
    {bound : List String} (renames : Renames apart old new dotted tokens renamed)
    (agree : AgreeBehind dotted before before' tokens)
    (guardAlike : ∀ position name, (apart → name ≠ old ∧ name ≠ new) →
      conditions.any (·.guards position name) = conditions'.any (·.guards position name))
    (sameLength : before.length = before'.length) :
    (occurrencesFrom source context bound conditions before tokens).map Occurrence.undescribed =
      (occurrencesFrom source' context bound conditions' before' renamed).map
        Occurrence.undescribed := by
  induction tokens generalizing dotted renamed before before' with
  | nil => rw [renames.eq_nil, occurrencesFrom, occurrencesFrom]
  | cons first rest ih =>
      rcases renames.exists_cons with ⟨first', rest', rfl⟩
      have others := ih renames.behind (renames.agreeBehind agree)
        (congrArg Nat.succ sameLength)
      have sameSigns := renames.behind.head?_isSign_eq
      rw [occurrencesFrom, occurrencesFrom]
      cases renames with
      | changed isOld isNew _ _ _ =>
          rw [isOld, isNew]
          simp only [isRead_of_point agree.isDotted, isRead_of_point agree.isDotted',
            Bool.false_eq_true, if_false]
          exact others
      | same lexeme free behind =>
          rw [← Token.word?_eq_of_lexeme lexeme]
          cases isWord : first.word? with
          | none => exact others
          | some name =>
              dsimp only
              rw [← agree.isRead_eq isWord sameSigns]
              split
              · rename_i read
                have noPoint : dotted = false := by
                  rw [← Bool.not_eq_true]
                  rintro rfl
                  rw [isRead_of_point agree.isDotted] at read
                  cases read
                have isFree : apart → name ≠ old ∧ name ≠ new :=
                  fun stands => free stands noPoint name isWord
                rw [Token.isSign_of_word? isWord] at behind
                have sameFallback : (fallback? source rest).isSome =
                    (fallback? source' rest').isSome := behind.isSome_fallback?_eq
                rw [List.map_cons, List.map_cons, others, ← sameLength,
                  guardAlike before.length name isFree]
                congr 1
                rcases none_or_some_of_isSome_eq sameFallback with
                  ⟨here, there⟩ | ⟨_, _, here, there⟩
                · rw [here, there]
                · rw [here, there]
                  rfl
              · exact others

theorem anySuperCall_eq (renames : Renames apart old new dotted tokens renamed) :
    anySuperCall tokens = anySuperCall renamed := by
  induction tokens generalizing dotted renamed with
  | nil => rw [renames.eq_nil]
  | cons first rest ih =>
      rcases renames.exists_cons with ⟨first', rest', rfl⟩
      have sameSigns := renames.behind.head?_isSign_eq
      rw [anySuperCall, anySuperCall, ih renames.behind]
      congr 1
      cases renames with
      | same lexeme _ _ =>
          rw [Token.word?_eq_of_lexeme lexeme]
          simp only [callsSuper, sameSigns]
      | changed isOld isNew inertOld inertNew _ =>
          have uncalled {name : String} (inert : IsInertName name rest) :
              callsSuper name rest = false := by
            rw [callsSuper, Bool.and_eq_false_iff]
            by_cases isSuper : name = "super"
            · exact Or.inr (inert.noCall isSuper)
            · exact Or.inl (beq_eq_false_iff_ne.mpr isSuper)
          have there : callsSuper new rest' = callsSuper new rest := by
            rw [callsSuper, callsSuper, sameSigns]
          rw [isOld, isNew, Option.any_some, Option.any_some, there, uncalled inertOld,
            uncalled inertNew]

end Renames

/-- Two expressions that have the same reads, up to the descriptions of fallbacks, and the same
calls of `super()`. -/
structure Expression.Alike (expression expression' : Expression) : Prop where
  occurrences : ∀ context bound,
    (expression.occurrences context bound).map Occurrence.undescribed =
      (expression'.occurrences context bound).map Occurrence.undescribed
  callsSuper : expression.callsSuper = expression'.callsSuper

/-- Expressions are alike if the tokens of one are a renaming of those of the other.  With an inline
condition, neither name may be `else`, and if the old one is a word of a test, the two have to stand
apart from the variables. -/
theorem Renames.expression_alike {apart : Prop} {old new : String}
    {expression expression' : Expression}
    (renames : Renames apart old new false expression.tokens expression'.tokens)
    (noIf : old ≠ "if" ∧ new ≠ "if")
    (noElse : InlineCondition.all [] expression.tokens ≠ [] → old ≠ "else" ∧ new ≠ "else")
    (tested : TestsWord expression.tokens old → apart) : expression.Alike expression' where
  occurrences context bound := by
    apply renames.occurrencesFrom_eq (.nil _) _ rfl
    intro position name free
    by_cases none : InlineCondition.all [] expression.tokens = []
    · rw [none, InlineCondition.all_eq_nil_of_alike noIf renames.alike none]
    · by_cases isTested : TestsWord expression.tokens old
      · apply InlineCondition.any_guards_alike _ position (free (tested isTested))
        exact InlineCondition.all_alike noIf (noElse none) renames.alike
      · rw [InlineCondition.all_eq_of_alike noIf (noElse none) renames.alike isTested]
  callsSuper := renames.anySuperCall_eq

end Lineage.Template
