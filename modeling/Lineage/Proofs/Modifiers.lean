import Lineage.Proofs.Renaming

/-!
# Modifiers that are attributes

The modifiers at the end of a loop, an inclusion or an import are dropped before its expression is
read, also where the first of them is an attribute: of `pages.recursive` only `pages.` is left.  What
is dropped behind a point has no reads and ends no search, so that the expression has the same reads
with it and without it (`Cut.expression_alike`).
-/

namespace Lineage.Template

/-- The words of which modifiers consist. -/
def modifierWords : List String :=
  ["recursive", "with", "without", "context", "ignore", "missing"]

/-- A list of tokens, and the same list without the words of modifiers that stand behind its last
point. -/
inductive Cut : (tokens rest : List Token) → Prop
  | point {point : Token} {tail : List Token} (isPoint : point.isSign "." = true)
      (areModifiers : ∀ token ∈ tail, ∃ word ∈ modifierWords, token.word? = some word) :
      Cut (point :: tail) [point]
  | cons (token : Token) {tokens rest : List Token} (others : Cut tokens rest) :
      Cut (token :: tokens) (token :: rest)

theorem Token.closes?_of_word? {token : Token} {name : String} (isWord : token.word? = some name) :
    token.closes? = none := by
  simp [closes?, isSign_of_word? isWord]

theorem Token.word?_of_isSign {token : Token} {sign : String} (isSign : token.isSign sign = true) :
    token.word? = none := by
  rw [Token.isSign, beq_iff_eq] at isSign
  rw [word?, isSign]

theorem Token.isWord_of_isSign {token : Token} {sign : String} (isSign : token.isSign sign = true)
    (word : String) : token.isWord word = false := by
  rw [Token.isSign, beq_iff_eq] at isSign
  rw [Token.isWord, isSign]
  rfl

theorem Token.closes?_of_point {token : Token} (isPoint : token.isSign "." = true) :
    token.closes? = none := by
  rw [← Option.not_isSome_iff_eq_none]
  intro closes
  rw [isSign_point_of_closes? closes] at isPoint
  cases isPoint

/-! ## Modifiers by themselves -/

section Modifiers

variable {tail : List Token}
  (areModifiers : ∀ token ∈ tail, ∃ word ∈ modifierWords, token.word? = some word)
include areModifiers

theorem groupSize_modifiers (depth : Nat) : groupSize depth tail = tail.length := by
  induction tail generalizing depth with
  | nil => rfl
  | cons token tail ih =>
      rcases areModifiers token List.mem_cons_self with ⟨word, _, isWord⟩
      rw [groupSize, Token.closes?_of_word? isWord]
      simp only [Option.isSome_none, Bool.false_and, Bool.false_eq_true, if_false, List.length_cons]
      rw [ih fun other member => areModifiers other (List.mem_cons_of_mem _ member)]

theorem wordsIn_modifiers : wordsIn tail = [] := by
  have keyword : ∀ word ∈ modifierWords, keywords.contains word = true := by decide
  rw [wordsIn, List.filter_eq_nil_iff]
  intro name member
  rcases List.mem_filterMap.mp member with ⟨token, isToken, isName⟩
  rcases areModifiers token isToken with ⟨word, isModifier, isWord⟩
  cases isWord.symm.trans isName
  simp only [keyword _ isModifier, Bool.not_true, Bool.false_eq_true, not_false_eq_true]

theorem all_modifiers (before : List Token) : InlineCondition.all before tail = [] := by
  induction tail generalizing before with
  | nil => rfl
  | cons token tail ih =>
      have noIf : ∀ word ∈ modifierWords, (word == "if") = false := by decide
      rcases areModifiers token List.mem_cons_self with ⟨word, isModifier, isWord⟩
      rw [InlineCondition.all_cons_of_other ((Token.isWord_of_word? isWord _).trans
        (noIf word isModifier))]
      exact ih (fun other member => areModifiers other (List.mem_cons_of_mem _ member)) _

theorem occurrencesFrom_modifiers {source : List Char} {context : Context} {bound : List String}
    {conditions : List InlineCondition} (before : List Token) :
    occurrencesFrom source context bound conditions before tail = [] := by
  induction tail generalizing before with
  | nil => rfl
  | cons token tail ih =>
      have keyword : ∀ word ∈ modifierWords, keywords.contains word = true := by decide
      rcases areModifiers token List.mem_cons_self with ⟨word, isModifier, isWord⟩
      rw [occurrencesFrom, isWord]
      simp only [isRead, keyword word isModifier, Bool.true_or, Bool.not_true, Bool.false_eq_true,
        if_false]
      exact ih (fun other member => areModifiers other (List.mem_cons_of_mem _ member)) _

theorem anySuperCall_modifiers : anySuperCall tail = false := by
  induction tail with
  | nil => rfl
  | cons token tail ih =>
      have noSuper : ∀ word ∈ modifierWords, (word == "super") = false := by decide
      rcases areModifiers token List.mem_cons_self with ⟨word, isModifier, isWord⟩
      rw [anySuperCall, isWord, Option.any_some, callsSuper, noSuper word isModifier,
        ih fun other member => areModifiers other (List.mem_cons_of_mem _ member)]
      rfl

end Modifiers

/-! ## A list without its modifiers -/

/-- Two conditions that differ in their ends guard the same words in front of both. -/
theorem InlineCondition.guards_congr
    {condition condition' : InlineCondition} {position : Nat} {name : String}
    (valueStart : condition.valueStart = condition'.valueStart)
    (isPosition : condition.position = condition'.position)
    (tested : condition.tested = condition'.tested)
    (inside : position < condition.testEnd ↔ position < condition'.testEnd) :
    condition.guards position name = condition'.guards position name := by
  rw [InlineCondition.guards, InlineCondition.guards, valueStart, isPosition, tested,
    decide_eq_decide.mpr inside]

namespace Cut

variable {tokens rest : List Token}

theorem head?_eq (cut : Cut tokens rest) : tokens.head? = rest.head? := by
  cases cut <;> rfl

/-- Groups end alike, or reach to the end of both lists. -/
theorem drop_groupSize (cut : Cut tokens rest) (depth : Nat) :
    Cut (tokens.drop (groupSize depth tokens)) (rest.drop (groupSize depth rest)) ∨
      (tokens.drop (groupSize depth tokens) = [] ∧ rest.drop (groupSize depth rest) = []) := by
  induction cut generalizing depth with
  | @point point tail isPoint areModifiers =>
      right
      rw [groupSize, groupSize, Token.closes?_of_point isPoint]
      simp only [Option.isSome_none, Bool.false_and, Bool.false_eq_true, if_false,
        groupSize_modifiers areModifiers, List.drop_succ_cons, List.drop_length, List.drop_nil,
        and_self]
  | cons token others ih =>
      rw [groupSize, groupSize]
      split
      · exact Or.inl others
      · exact ih _

/-- No search for a fallback goes on in the list. -/
def IsSpent (tokens : List Token) : Prop :=
  tokens.head?.any (·.isWord "or") = false ∧ tokens.head?.any (·.isSign "|") = false

theorem fallback?_of_isSpent {source : List Char} {after : List Token}
    (spent : IsSpent (afterSuffixes after)) : fallback? source after = none := by
  rw [fallback?]
  cases found : afterSuffixes after with
  | nil => rfl
  | cons first rest =>
      rw [found] at spent
      have noOr : first.isWord "or" = false := spent.1
      simp only [noOr, Bool.false_eq_true, if_false]
      exact filterDescription?_of_noBar spent.2

theorem isSpent_nil : IsSpent [] :=
  ⟨rfl, rfl⟩

theorem isSpent_point {point : Token} (isPoint : point.isSign "." = true) (tail : List Token) :
    IsSpent (point :: tail) :=
  ⟨Token.isWord_of_isSign isPoint "or", Token.isSign_eq_false isPoint (by decide)⟩

theorem isSpent_modifiers {tail : List Token}
    (areModifiers : ∀ token ∈ tail, ∃ word ∈ modifierWords, token.word? = some word) :
    IsSpent (Template.afterSuffixes tail) := by
  cases tail with
  | nil =>
      rw [Template.afterSuffixes]
      exact isSpent_nil
  | cons token tail =>
      have noOr : ∀ word ∈ modifierWords, (word == "or") = false := by decide
      rcases areModifiers token List.mem_cons_self with ⟨word, isModifier, isWord⟩
      rw [afterSuffixes_of_other (Token.isSign_of_word? isWord _)
        (by rw [Token.isSign_of_word? isWord, Token.isSign_of_word? isWord, Bool.or_false])]
      exact ⟨(Token.isWord_of_word? isWord _).trans (noOr word isModifier),
        Token.isSign_of_word? isWord _⟩

/-- The suffixes of an operand end alike, or no fallback follows them in either list. -/
theorem afterSuffixes (cut : Cut tokens rest) :
    Cut (afterSuffixes tokens) (Template.afterSuffixes rest) ∨
      (IsSpent (Template.afterSuffixes tokens) ∧ IsSpent (Template.afterSuffixes rest)) := by
  induction tokens using suffixes_induction generalizing rest with
  | nil => cases cut
  | other first others noPoint noBracket =>
      rw [afterSuffixes_of_other noPoint noBracket]
      cases cut with
      | point isPoint _ =>
          rw [noPoint] at isPoint
          cases isPoint
      | cons _ others =>
          rw [afterSuffixes_of_other noPoint noBracket]
          exact Or.inl (.cons first others)
  | noName point others isPoint noName =>
      rw [afterSuffixes_of_noName isPoint noName]
      cases cut with
      | point _ areModifiers =>
          rw [afterSuffixes_of_noName isPoint rfl]
          exact Or.inl (.point isPoint areModifiers)
      | cons _ others =>
          rw [others.head?_eq] at noName
          rw [afterSuffixes_of_noName isPoint noName]
          exact Or.inl (.cons point others)
  | name point name others isPoint isWord ih =>
      rw [afterSuffixes_of_name isPoint isWord]
      cases cut with
      | point _ areModifiers =>
          rw [afterSuffixes_of_noName isPoint rfl]
          exact Or.inr ⟨isSpent_modifiers (List.forall_mem_cons.mp areModifiers).2,
            isSpent_point isPoint []⟩
      | cons _ others =>
          cases others with
          | point namesPoint _ =>
              rw [Token.word?_of_isSign namesPoint] at isWord
              cases isWord
          | cons _ others =>
              rw [afterSuffixes_of_name isPoint isWord]
              exact ih others
  | bracket first others noPoint isBracket ih =>
      rw [afterSuffixes_of_bracket noPoint isBracket]
      cases cut with
      | point isPoint _ =>
          rw [noPoint] at isPoint
          cases isPoint
      | cons _ others =>
          rw [afterSuffixes_of_bracket noPoint isBracket]
          rcases (Cut.cons first others).drop_groupSize 0 with further | ⟨none, none'⟩
          · exact ih further
          · rw [afterGroup, none, afterGroup, none', Template.afterSuffixes]
            exact Or.inr ⟨isSpent_nil, isSpent_nil⟩

theorem afterArguments (cut : Cut tokens rest) :
    Cut (afterArguments tokens) (Template.afterArguments rest) ∨
      (Template.afterArguments tokens = [] ∧ Template.afterArguments rest = []) := by
  rw [Template.afterArguments, Template.afterArguments, cut.head?_eq]
  split
  · exact cut.drop_groupSize 0
  · exact Or.inl cut

variable {source source' : List Char}

/-- Behind a bar the two lists are alike. -/
theorem behind_bar {bar : Token} {tokens : List Token} (cut : Cut (bar :: tokens) rest)
    (isBar : bar.isSign "|" = true) : ∃ others, rest = bar :: others ∧ Cut tokens others := by
  cases cut with
  | point isPoint _ =>
      rw [Token.isSign_eq_false isPoint (by decide)] at isBar
      cases isBar
  | cons _ others => exact ⟨_, rfl, others⟩

/-- A name is the same in both lists. -/
theorem behind_word {name : Token} {word : String} {tokens : List Token}
    (cut : Cut (name :: tokens) rest) (isWord : name.word? = some word) :
    ∃ others, rest = name :: others ∧ Cut tokens others := by
  cases cut with
  | point isPoint _ =>
      rw [Token.word?_of_isSign isPoint] at isWord
      cases isWord
  | cons _ others => exact ⟨_, rfl, others⟩

theorem isSome_filterDescription?_eq (cut : Cut tokens rest) :
    (filterDescription? source tokens).isSome = (filterDescription? source' rest).isSome := by
  induction tokens using filters_induction generalizing rest with
  | noBar tokens noBar =>
      have noBar' := noBar
      rw [cut.head?_eq] at noBar'
      rw [filterDescription?_of_noBar noBar, filterDescription?_of_noBar noBar']
  | noName bar tokens isBar noName =>
      rcases cut.behind_bar isBar with ⟨others, rfl, behind⟩
      have noName' := noName
      rw [behind.head?_eq] at noName'
      rw [filterDescription?_of_noName noName, filterDescription?_of_noName noName']
  | default bar name more filter isBar isWord isDefault =>
      rcases cut.behind_bar isBar with ⟨_, rfl, behind⟩
      rcases behind.behind_word isWord with ⟨others, rfl, _⟩
      rw [filterDescription?_of_default isBar isWord isDefault,
        filterDescription?_of_default isBar isWord isDefault]
      rfl
  | filter bar name more filter isBar isWord noDefault ih =>
      rcases cut.behind_bar isBar with ⟨_, rfl, behind⟩
      rcases behind.behind_word isWord with ⟨others, rfl, further⟩
      rw [filterDescription?_of_filter isBar isWord noDefault,
        filterDescription?_of_filter isBar isWord noDefault]
      rcases further.afterArguments with more | ⟨none, none'⟩
      · exact ih more
      · rw [none, none', filterDescription?_of_noBar rfl, filterDescription?_of_noBar rfl]

theorem isSome_fallback?_eq (cut : Cut tokens rest) :
    (fallback? source tokens).isSome = (fallback? source' rest).isSome := by
  rcases cut.afterSuffixes with further | ⟨spent, spent'⟩
  · rw [fallback?, fallback?]
    generalize Template.afterSuffixes tokens = behind at further
    generalize Template.afterSuffixes rest = behind' at further
    cases further with
    | @point point _ isPoint _ =>
        have noOr := Token.isWord_of_isSign isPoint "or"
        have noBar (tail : List Token) : (point :: tail).head?.any (·.isSign "|") = false :=
          Token.isSign_eq_false isPoint (by decide)
        simp only [noOr, Bool.false_eq_true, if_false]
        rw [filterDescription?_of_noBar (noBar _), filterDescription?_of_noBar (noBar _)]
    | cons first others =>
        dsimp only
        split
        · cases others <;> rfl
        · exact (Cut.cons first others).isSome_filterDescription?_eq
  · rw [fallback?_of_isSpent spent, fallback?_of_isSpent spent']

/-! ### Conditions and reads -/

theorem testLength_eq (cut : Cut tokens rest) (depth : Nat) :
    testLength depth rest = min (testLength depth tokens) rest.length := by
  induction cut generalizing depth with
  | @point point tail isPoint areModifiers =>
      have goesOn : (depth == 0 && (point.closes?.isSome || point.isSign "," ||
          point.isWord "else")) = false := by
        rw [Token.closes?_of_point isPoint, Token.isSign_eq_false isPoint (by decide),
          Token.isWord_of_isSign isPoint, Option.isSome_none, Bool.or_self, Bool.or_self,
          Bool.and_false]
      have step (others : List Token) : testLength depth (point :: others) =
          testLength (point.depthAfter depth) others + 1 := by
        rw [testLength, goesOn, if_neg Bool.false_ne_true]
      rw [step, step, testLength, List.length_singleton]
      omega
  | cons token others ih =>
      rw [testLength, testLength]
      split
      · rw [Nat.zero_min]
      · rw [ih, List.length_cons, Nat.succ_min_succ]

theorem wordsIn_take_eq (cut : Cut tokens rest) (count : Nat) :
    wordsIn (tokens.take count) = wordsIn (rest.take count) := by
  have step (token : Token) (tokens : List Token) :
      wordsIn (token :: tokens) = wordsIn [token] ++ wordsIn tokens := by
    rw [wordsIn, wordsIn, wordsIn, ← List.filter_append, ← List.filterMap_append,
      List.singleton_append]
  induction cut generalizing count with
  | @point point tail isPoint areModifiers =>
      cases count with
      | zero => rfl
      | succ count =>
          have none : wordsIn (tail.take count) = [] :=
            wordsIn_modifiers fun token member => areModifiers token (List.mem_of_mem_take member)
          rw [List.take_succ_cons, List.take_succ_cons, List.take_nil, step, none, List.append_nil]
  | cons token others ih =>
      cases count with
      | zero => rfl
      | succ count => rw [List.take_succ_cons, List.take_succ_cons, step, ih, ← step]

/-- Behind an `if` the list is cut in the same place. -/
theorem behind_if {front more : List Token} {condition : Token}
    (cut : Cut (front ++ condition :: more) rest) (isIf : condition.isWord "if" = true) :
    ∃ more', rest = front ++ condition :: more' ∧ Cut more more' := by
  have noModifier : ∀ word ∈ modifierWords, condition.word? ≠ some word := by
    intro word isModifier isWord
    have noIf : ∀ word ∈ modifierWords, (word == "if") = false := by decide
    rw [Token.isWord_of_word? isWord, noIf word isModifier] at isIf
    cases isIf
  induction front generalizing rest with
  | nil =>
      cases cut with
      | point isPoint _ => rw [Token.isWord_of_isSign isPoint] at isIf; cases isIf
      | cons _ others => exact ⟨_, rfl, others⟩
  | cons token front ih =>
      cases cut with
      | point _ areModifiers =>
          rcases areModifiers condition (by simp) with ⟨word, isModifier, isWord⟩
          exact absurd isWord (noModifier word isModifier)
      | cons _ others =>
          rcases ih others with ⟨more', rfl, behind⟩
          exact ⟨more', rfl, behind⟩

theorem mem_take {token : Token} {count : Nat} (cut : Cut tokens rest)
    (member : token ∈ tokens.take count) :
    token ∈ rest.take count ∨ ∃ word ∈ modifierWords, token.word? = some word := by
  induction cut generalizing count with
  | point _ areModifiers =>
      cases count with
      | zero => exact Or.inl member
      | succ count =>
          rcases List.mem_cons.mp member with rfl | later
          · exact Or.inl List.mem_cons_self
          · exact Or.inr (areModifiers token (List.mem_of_mem_take later))
  | cons first others ih =>
      cases count with
      | zero => exact Or.inl member
      | succ count =>
          rcases List.mem_cons.mp member with rfl | later
          · exact Or.inl List.mem_cons_self
          · exact (ih later).imp_left (List.mem_cons_of_mem first)

/-- A word in a test of the list is one in a test of what is left, or of a modifier. -/
theorem testsWord {name : String} (cut : Cut tokens rest) (tests : TestsWord tokens name) :
    TestsWord rest name ∨ name ∈ modifierWords := by
  rcases tests with ⟨front, condition, more, rfl, filled, isIf, token, inTest, isName⟩
  rcases cut.behind_if isIf with ⟨more', rfl, behind⟩
  rcases behind.mem_take inTest with inTest' | ⟨word, isModifier, isWord⟩
  · left
    refine ⟨front, condition, more', rfl, filled, isIf, token, ?_, isName⟩
    rwa [behind.testLength_eq, ← List.take_eq_take_min]
  · cases isWord.symm.trans isName
    exact Or.inr isModifier

/-- The conditions of the two lists guard the same words of the shorter one. -/
theorem all_guards (cut : Cut tokens rest) (before : List Token) :
    List.Forall₂ (fun condition condition' : InlineCondition =>
        ∀ position name, position < before.length + rest.length →
          condition.guards position name = condition'.guards position name)
      (InlineCondition.all before tokens) (InlineCondition.all before rest) := by
  induction cut generalizing before with
  | @point point tail isPoint areModifiers =>
      have noIf := Token.isWord_of_isSign isPoint "if"
      rw [InlineCondition.all_cons_of_other noIf, InlineCondition.all_cons_of_other noIf,
        all_modifiers areModifiers]
      exact .nil
  | @cons token tokens rest others ih =>
      have further := ih (token :: before)
      rw [List.length_cons, Nat.add_right_comm] at further
      by_cases isIf : token.isWord "if" = true
      · cases before with
        | nil =>
            rw [InlineCondition.all, InlineCondition.all]
            simp only [List.isEmpty_nil, Bool.not_true, Bool.and_false]
            exact further
        | cons previous before =>
            rw [InlineCondition.all_cons_of_if isIf (List.cons_ne_nil _ _),
              InlineCondition.all_cons_of_if isIf (List.cons_ne_nil _ _)]
            refine .cons ?_ further
            intro position name inside
            have length := others.testLength_eq 0
            have words : wordsIn (tokens.take (testLength 0 tokens)) =
                wordsIn (rest.take (testLength 0 rest)) := by
              rw [others.wordsIn_take_eq, length, List.take_eq_take_min]
            refine InlineCondition.guards_congr ?_ ?_ words ?_
            · rfl
            · rfl
            have size : (token :: rest).length = rest.length + 1 := rfl
            simp only [InlineCondition.around, length]
            omega
      · rw [Bool.not_eq_true] at isIf
        rw [InlineCondition.all_cons_of_other isIf, InlineCondition.all_cons_of_other isIf]
        exact further

theorem occurrencesFrom_eq {before : List Token} {conditions conditions' : List InlineCondition}
    {context : Context} {bound : List String} (cut : Cut tokens rest)
    (guardAlike : ∀ position name, position < before.length + rest.length →
      conditions.any (·.guards position name) = conditions'.any (·.guards position name)) :
    (occurrencesFrom source context bound conditions before tokens).map Occurrence.undescribed =
      (occurrencesFrom source' context bound conditions' before rest).map
        Occurrence.undescribed := by
  induction cut generalizing before with
  | point isPoint areModifiers =>
      have noWord := Token.word?_of_isSign isPoint
      simp only [occurrencesFrom, noWord, occurrencesFrom_modifiers areModifiers]
  | @cons token tokens rest others ih =>
      have further : (occurrencesFrom source context bound conditions (token :: before)
            tokens).map Occurrence.undescribed =
          (occurrencesFrom source' context bound conditions' (token :: before) rest).map
            Occurrence.undescribed := by
        apply ih
        intro position name inside
        rw [List.length_cons, Nat.add_right_comm] at inside
        exact guardAlike position name inside
      rw [occurrencesFrom, occurrencesFrom]
      cases token.word? with
      | none => exact further
      | some name =>
          dsimp only
          have sameRead : isRead context bound before name tokens =
              isRead context bound before name rest := by
            simp only [isRead, callsSuper, others.head?_eq]
          rw [sameRead]
          split
          · rw [List.map_cons, List.map_cons, further, guardAlike before.length name (by simp)]
            congr 1
            have sameFallback : (fallback? source tokens).isSome = (fallback? source' rest).isSome :=
              others.isSome_fallback?_eq
            rcases none_or_some_of_isSome_eq sameFallback with ⟨here, there⟩ | ⟨_, _, here, there⟩
            · rw [here, there]
            · rw [here, there]
              rfl
          · exact further

theorem anySuperCall_eq (cut : Cut tokens rest) : anySuperCall tokens = anySuperCall rest := by
  induction cut with
  | point isPoint areModifiers =>
      rw [anySuperCall, anySuperCall, anySuperCall_modifiers areModifiers,
        Token.word?_of_isSign isPoint, anySuperCall, Option.any_none, Option.any_none]
  | cons token others ih =>
      rw [anySuperCall, anySuperCall, ih]
      simp only [callsSuper, others.head?_eq]

/-- An expression has the same reads without the modifiers behind its last point. -/
theorem expression_alike {expression expression' : Expression}
    (cut : Cut expression.tokens expression'.tokens) : expression.Alike expression' where
  occurrences context bound := by
    apply cut.occurrencesFrom_eq
    intro position name inside
    have alike := cut.all_guards []
    revert alike
    generalize InlineCondition.all [] expression.tokens = conditions
    generalize InlineCondition.all [] expression'.tokens = conditions'
    intro alike
    induction alike with
    | nil => rfl
    | cons first _ ih => rw [List.any_cons, List.any_cons, ih, first position name inside]
  callsSuper := cut.anySuperCall_eq

end Cut

/-! ## What is left of a list -/

/-- What is left of a list: all of it, or all but the modifiers behind its last point. -/
def IsLeft (whole left : List Token) : Prop :=
  whole = left ∨ Cut whole left

namespace IsLeft

variable {whole left : List Token}

theorem cut (front : List Token) {point : Token} {tail : List Token}
    (isPoint : point.isSign "." = true)
    (areModifiers : ∀ token ∈ tail, ∃ word ∈ modifierWords, token.word? = some word) :
    IsLeft (front ++ point :: tail) (front ++ [point]) := by
  right
  induction front with
  | nil => exact .point isPoint areModifiers
  | cons token front ih => exact .cons token ih

theorem isEmpty_eq (isLeft : IsLeft whole left) : whole.isEmpty = left.isEmpty := by
  rcases isLeft with rfl | cut
  · rfl
  · cases cut <;> rfl

/-- The whole expression has the reads of what is left of it. -/
theorem part_alike {expression : Expression} (isLeft : IsLeft whole expression.tokens) :
    (expression.part whole).Alike expression := by
  rcases isLeft with rfl | cut
  · exact ⟨fun _ _ => rfl, rfl⟩
  · exact cut.expression_alike

/-- Without a condition in what is left there is none in the whole. -/
theorem all_eq_nil (isLeft : IsLeft whole left) (none : InlineCondition.all [] left = []) :
    InlineCondition.all [] whole = [] := by
  rcases isLeft with rfl | cut
  · exact none
  · have length := (cut.all_guards []).length_eq
    rw [none] at length
    exact List.length_eq_zero_iff.mp length

theorem testsWord {name : String} (isLeft : IsLeft whole left) (tests : TestsWord whole name) :
    TestsWord left name ∨ name ∈ modifierWords := by
  rcases isLeft with rfl | cut
  · exact Or.inl tests
  · exact cut.testsWord tests

/-- The words of modifiers hold no `if`, so that the list is split at the same place. -/
theorem findTopLevel?_if (isLeft : IsLeft whole left) (depth : Nat) :
    findTopLevel? (·.isWord "if") depth whole = findTopLevel? (·.isWord "if") depth left := by
  rcases isLeft with rfl | cut
  · rfl
  · induction cut generalizing depth with
    | @point point tail isPoint areModifiers =>
        have none : ∀ tail : List Token,
            (∀ token ∈ tail, ∃ word ∈ modifierWords, token.word? = some word) →
              findTopLevel? (·.isWord "if") (point.depthAfter depth) tail = none := by
          intro tail
          generalize point.depthAfter depth = depth
          induction tail generalizing depth with
          | nil => exact fun _ => rfl
          | cons token tail ih =>
              intro areModifiers
              have noIf : ∀ word ∈ modifierWords, (word == "if") = false := by decide
              rcases areModifiers token List.mem_cons_self with ⟨word, isModifier, isWord⟩
              rw [findTopLevel?, Token.isWord_of_word? isWord, noIf word isModifier,
                ih _ fun other member => areModifiers other (List.mem_cons_of_mem _ member)]
              rw [Bool.and_false]
              rfl
        rw [findTopLevel?, findTopLevel?, none tail areModifiers, findTopLevel?]
    | cons token others ih => rw [findTopLevel?, findTopLevel?, ih]

/-- Where the list is split, the first part is the same, and modifiers are dropped behind it. -/
theorem split_if {depth position : Nat} (isLeft : IsLeft whole left)
    (found : findTopLevel? (·.isWord "if") depth left = some position) :
    whole.take position = left.take position ∧
      IsLeft (whole.drop (position + 1)) (left.drop (position + 1)) := by
  rcases isLeft with rfl | cut
  · exact ⟨rfl, Or.inl rfl⟩
  · induction cut generalizing depth position with
    | point isPoint _ =>
        rw [findTopLevel?, Token.isWord_of_isSign isPoint, Bool.and_false, findTopLevel?] at found
        cases found
    | @cons token tokens rest others ih =>
        rw [findTopLevel?] at found
        split at found
        · cases found
          exact ⟨rfl, Or.inr others⟩
        · obtain ⟨further, isFurther, rfl⟩ := Option.map_eq_some_iff.mp found
          rcases ih isFurther with ⟨sameFront, behind⟩
          rw [List.take_succ_cons, List.take_succ_cons, sameFront]
          exact ⟨rfl, behind⟩

end IsLeft

end Lineage.Template
