import Lineage.Proofs.Fallbacks

/-!
# Inline conditions inside longer expressions

An inline condition is found in the token list by counting brackets, to the left and to the right of
its `if`.  An operand has conditions only inside brackets.  Their searches do not leave the
brackets, so the conditions of an operand are the same inside a longer expression, only further on
(`InlineCondition.all_excerpt`), and the operand has the reads that it has by itself, other than by
the guard of a condition around it (`occurrencesFrom_excerpt`).
-/

namespace Lineage.Template

open Lineage.Text

/-! ## Brackets in front of a token -/

theorem findTopLevel?_append_right {p : Token → Bool} {depth : Nat} {first second : List Token}
    (nowhere : findTopLevel? p depth (first ++ second) = none) :
    findTopLevel? p (depthBehind depth first) second = none := by
  induction first generalizing depth with
  | nil => exact nowhere
  | cons token first ih =>
      rw [List.cons_append, findTopLevel?] at nowhere
      split at nowhere
      · cases nowhere
      · exact ih (Option.map_eq_none_iff.mp nowhere)

/-- What stands nowhere outside brackets stands inside one. -/
theorem depthBehind_pos {p : Token → Bool} {first rest : List Token} {token : Token}
    (nowhere : findTopLevel? p 0 (first ++ token :: rest) = none) (found : p token = true) :
    0 < depthBehind 0 first := by
  rw [Nat.pos_iff_ne_zero]
  intro outside
  have here := findTopLevel?_append_right nowhere
  rw [outside, findTopLevel?, found] at here
  cases here

/-- Behind a list that is given in reverse with its last token. -/
theorem depthBehind_reverse_cons (depth : Nat) (token : Token) (before : List Token) :
    depthBehind depth (token :: before).reverse =
      token.depthAfter (depthBehind depth before.reverse) := by
  rw [depthBehind, List.reverse_cons, List.foldl_append]
  rfl

/-! ## The test of a condition -/

/-- The token ends the operand of an inline condition, unless it stands in brackets. -/
def Token.endsOperand (token : Token) : Bool :=
  token.isSign "," || token.isWord "if" || token.isWord "else"

/-- A list that closes its brackets and that does not end an operand outside them. -/
structure IsClosed (tokens : List Token) : Prop where
  balanced : Balanced 0 tokens
  whole : findTopLevel? Token.endsOperand 0 tokens = none

section Test

variable {distance : Nat} {extra tokens : List Token}

theorem testLength_le (depth : Nat) (tokens : List Token) :
    testLength depth tokens ≤ tokens.length := by
  induction tokens generalizing depth with
  | nil => exact Nat.le_refl 0
  | cons token tokens ih =>
      rw [testLength]
      split
      · exact Nat.zero_le _
      · exact Nat.succ_le_succ (ih _)

/-- A test inside a bracket does not reach over the end of it. -/
theorem testLength_excerpt {depth outer : Nat} (balanced : Balanced (depth + outer) tokens)
    (inside : 0 < outer) :
    testLength depth (tokens.map (Token.later distance) ++ extra) = testLength depth tokens := by
  induction tokens generalizing depth with
  | nil =>
      rw [Balanced] at balanced
      omega
  | cons token tokens ih =>
      rw [List.map_cons, List.cons_append, testLength, testLength, Token.closes?_later,
        Token.isSign_later, Token.isWord_later, Token.depthAfter_later]
      split
      · rfl
      · rename_i goesOn
        have closes : token.closes?.isSome = true → 0 < depth := by
          intro isClosing
          rw [Nat.pos_iff_ne_zero]
          rintro rfl
          simp [isClosing] at goesOn
        rw [Balanced, Token.depthAfter_add closes] at balanced
        rw [ih balanced.2]

/-- The test of a condition reaches up to its `else`. -/
theorem testLength_operand {depth : Nat} {other : Token} (balanced : Balanced depth tokens)
    (whole : findTopLevel? Token.endsOperand depth tokens = none)
    (isElse : other.isWord "else" = true) :
    testLength depth (tokens.map (Token.later distance) ++ other :: extra) = tokens.length := by
  induction tokens generalizing depth with
  | nil =>
      rw [Balanced] at balanced
      simp [testLength, balanced, isElse]
  | cons token tokens ih =>
      rw [findTopLevel?] at whole
      split at whole
      · cases whole
      · rename_i noEnd
        have goesOn : ¬ (depth == 0 && (token.closes?.isSome || token.isSign "," ||
            token.isWord "else")) = true := by
          simp only [Bool.and_eq_true, Bool.or_eq_true, beq_iff_eq, not_and, not_or] at noEnd ⊢
          rintro rfl
          have here := noEnd rfl
          simp only [Token.endsOperand, Bool.or_eq_true, not_or] at here
          exact ⟨⟨fun closes => Nat.lt_irrefl 0 (balanced.1 closes), here.1.1⟩, here.2⟩
        rw [List.map_cons, List.cons_append, testLength, Token.closes?_later, Token.isSign_later,
          Token.isWord_later, Token.depthAfter_later, if_neg goesOn,
          ih balanced.2 (Option.map_eq_none_iff.mp whole), List.length_cons]

end Test

/-! ## The value of a condition -/

section Value

variable {distance : Nat} {further before rest : List Token}

theorem valueLength_le (depth : Nat) (before : List Token) :
    valueLength depth before ≤ before.length := by
  induction before generalizing depth with
  | nil => exact Nat.le_refl 0
  | cons token before ih =>
      rw [valueLength]
      split
      · exact Nat.succ_le_succ (ih _)
      · split
        · split
          · exact Nat.zero_le _
          · exact Nat.succ_le_succ (ih _)
        · split
          · exact Nat.zero_le _
          · exact Nat.succ_le_succ (ih _)

/-- A value inside a bracket does not reach over the beginning of it. -/
theorem valueLength_excerpt {depth : Nat} (inside : depth < depthBehind 0 before.reverse) :
    valueLength depth (before.map (Token.later distance) ++ further) =
      valueLength depth before := by
  induction before generalizing depth with
  | nil => exact absurd inside (Nat.not_lt_zero _)
  | cons token before ih =>
      rw [depthBehind_reverse_cons] at inside
      rw [List.map_cons, List.cons_append, valueLength, valueLength, Token.closes?_later,
        Token.opens?_later, Token.isSign_later, Token.isWord_later]
      split
      · rename_i closes
        rw [Token.depthAfter_of_closes? closes] at inside
        rw [ih (by omega)]
      · rename_i noClosing
        split
        · rename_i opens
          rw [Token.depthAfter_of_opens? opens] at inside
          split
          · rfl
          · rename_i isInner
            rw [beq_iff_eq] at isInner
            rw [ih (by omega)]
        · rename_i noOpening
          rw [Token.depthAfter_of_other noOpening noClosing] at inside
          rw [ih inside]

/-- The value of a condition reaches back to the beginning of the expression. -/
theorem valueLength_operand (closed : IsClosed (before.reverse ++ rest)) :
    valueLength (depthBehind 0 before.reverse) before = before.length := by
  induction before generalizing rest with
  | nil => rfl
  | cons token before ih =>
      rw [List.reverse_cons, List.append_assoc] at closed
      have further := ih closed
      have closedBehind := closed.balanced.append_right.1
      rw [depthBehind_reverse_cons, List.length_cons, valueLength]
      split
      · rename_i closes
        have positive := closedBehind closes
        rw [Token.depthAfter_of_closes? closes, Nat.sub_add_cancel positive, further]
      · rename_i noClosing
        split
        · rename_i opens
          rw [Token.depthAfter_of_opens? opens, Nat.add_sub_cancel, further]
          rfl
        · rename_i noOpening
          rw [Token.depthAfter_of_other noOpening noClosing, further]
          have goesOn : ¬ (depthBehind 0 before.reverse == 0 && (token.isSign "," ||
              token.isWord "else")) = true := by
            intro ends
            rw [Bool.and_eq_true, beq_iff_eq] at ends
            have isEnd : token.endsOperand = true := by
              rcases Bool.or_eq_true_iff.mp ends.2 with isComma | isElse
              · simp [Token.endsOperand, isComma]
              · simp [Token.endsOperand, isElse]
            exact Nat.pos_iff_ne_zero.mp (depthBehind_pos closed.whole isEnd) ends.1
          rw [if_neg goesOn]

end Value

/-! ## The conditions of an operand -/

/-- The words among the tokens that are no keywords. -/
def wordsIn (tokens : List Token) : List String :=
  (tokens.filterMap Token.word?).filter (!keywords.contains ·)

namespace InlineCondition

/-- The condition whose `if` stands between the tokens `before`, given in reverse, and `rest`. -/
def around (before rest : List Token) : InlineCondition where
  valueStart := before.length - valueLength 0 before
  position := before.length
  testEnd := before.length + 1 + testLength 0 rest
  tested := wordsIn (rest.take (testLength 0 rest))

/-- The condition some tokens further on. -/
def later (distance : Nat) (condition : InlineCondition) : InlineCondition where
  valueStart := condition.valueStart + distance
  position := condition.position + distance
  testEnd := condition.testEnd + distance
  tested := condition.tested

variable {distance : Nat} {token : Token} {further extra before rest : List Token}

theorem all_cons_of_if (isIf : token.isWord "if" = true) (filled : before ≠ []) :
    InlineCondition.all before (token :: rest) =
      around before rest :: InlineCondition.all (token :: before) rest := by
  have notEmpty : before.isEmpty = false := by simpa using filled
  rw [InlineCondition.all, isIf, notEmpty]
  rfl

theorem all_cons_of_other (noIf : token.isWord "if" = false) :
    InlineCondition.all before (token :: rest) = InlineCondition.all (token :: before) rest := by
  rw [InlineCondition.all, noIf]
  rfl

theorem wordsIn_later (tokens : List Token) :
    wordsIn (tokens.map (Token.later distance)) = wordsIn tokens := by
  have words : Token.word? ∘ Token.later distance = Token.word? := rfl
  rw [wordsIn, List.filterMap_map, words, ← wordsIn]

/-- A condition inside a bracket is the same in a longer expression, only further on. -/
theorem around_excerpt (inside : 0 < depthBehind 0 before.reverse)
    (balanced : Balanced (depthBehind 0 before.reverse) rest) :
    around (before.map (Token.later distance) ++ further)
        (rest.map (Token.later distance) ++ extra) =
      (around before rest).later further.length := by
  have bound := valueLength_le 0 before
  have short : testLength 0 rest ≤ (rest.map (Token.later distance)).length := by
    rw [List.length_map]
    exact testLength_le 0 rest
  rw [← Nat.zero_add (depthBehind 0 before.reverse)] at balanced
  rw [around, around, testLength_excerpt balanced inside, valueLength_excerpt inside,
    List.take_append_of_le_length short, ← List.map_take, wordsIn_later, List.length_append,
    List.length_map]
  have begins : before.length + further.length - valueLength 0 before =
      before.length - valueLength 0 before + further.length := by omega
  have ends : before.length + further.length + 1 + testLength 0 rest =
      before.length + 1 + testLength 0 rest + further.length := by omega
  rw [begins, ends, later]

/-- The conditions of an operand are those that it has by itself, further on.  Behind them come the
conditions behind the operand. -/
theorem all_excerpt (closed : IsClosed (before.reverse ++ rest)) :
    InlineCondition.all (before.map (Token.later distance) ++ further)
        (rest.map (Token.later distance) ++ extra) =
      (InlineCondition.all before rest).map (later further.length) ++
        InlineCondition.all ((before.reverse ++ rest).reverse.map (Token.later distance) ++ further)
          extra := by
  induction rest generalizing before with
  | nil => simp [InlineCondition.all]
  | cons token rest ih =>
      have step : before.reverse ++ token :: rest = (token :: before).reverse ++ rest := by simp
      have balancedBehind := closed.balanced.append_right.2
      have nowhere := closed.whole
      rw [step] at closed
      have others := ih closed
      rw [List.map_cons, List.cons_append, ← step] at others
      rw [List.map_cons, List.cons_append]
      by_cases isIf : token.isWord "if" = true
      · have inside : 0 < depthBehind 0 before.reverse :=
          depthBehind_pos nowhere (by simp [Token.endsOperand, isIf])
        have filled : before ≠ [] := by
          rintro rfl
          exact absurd inside (Nat.lt_irrefl 0)
        have filledBehind : before.map (Token.later distance) ++ further ≠ [] := by
          simp [filled]
        have unchanged : token.depthAfter (depthBehind 0 before.reverse) =
            depthBehind 0 before.reverse := by
          rw [Token.isWord, beq_iff_eq] at isIf
          apply Token.depthAfter_of_other <;>
            simp [Token.opens?, Token.closes?, Token.isSign, isIf]
        rw [unchanged] at balancedBehind
        have isIfLater : (token.later distance).isWord "if" = true := isIf
        rw [all_cons_of_if isIfLater filledBehind, all_cons_of_if isIf filled, others,
          around_excerpt inside balancedBehind, List.map_cons, List.cons_append]
      · rw [Bool.not_eq_true] at isIf
        have noIfLater : (token.later distance).isWord "if" = false := isIf
        rw [all_cons_of_other noIfLater, all_cons_of_other isIf, others]

/-! ### What a condition guards -/

variable {condition : InlineCondition} {position : Nat} {name : String}

theorem guards_later : (condition.later distance).guards (position + distance) name =
    condition.guards position name := by
  simp [guards, later]

/-- A condition further on guards nothing before. -/
theorem guards_later_of_lt (before : position < distance) :
    (condition.later distance).guards position name = false := by
  have noTest : ¬ condition.position + distance < position := by omega
  have noValue : ¬ condition.valueStart + distance ≤ position := by omega
  simp [guards, later, noTest, noValue]

/-- A condition in a list ends in the list. -/
theorem ends_of_mem_all (member : condition ∈ InlineCondition.all before rest) :
    condition.position < before.length + rest.length ∧
      condition.testEnd ≤ before.length + rest.length := by
  induction rest generalizing before with
  | nil => simp [InlineCondition.all] at member
  | cons token rest ih =>
      have later : condition ∈ InlineCondition.all (token :: before) rest →
          condition.position < before.length + (token :: rest).length ∧
            condition.testEnd ≤ before.length + (token :: rest).length := by
        intro isLater
        have bounds := ih isLater
        simp only [List.length_cons] at bounds ⊢
        omega
      by_cases isIf : token.isWord "if" = true ∧ before ≠ []
      · rw [all_cons_of_if isIf.1 isIf.2] at member
        rcases List.mem_cons.mp member with rfl | isLater
        · have short := testLength_le 0 rest
          simp only [around, List.length_cons]
          omega
        · exact later isLater
      · have same : InlineCondition.all before (token :: rest) =
            InlineCondition.all (token :: before) rest := by
          rw [InlineCondition.all, if_neg]
          simpa using isIf
        rw [same] at member
        exact later member

/-- A condition in a list guards nothing behind the list. -/
theorem guards_of_mem_all (member : condition ∈ InlineCondition.all before rest)
    (behind : before.length + rest.length ≤ position) : condition.guards position name = false := by
  have bounds := ends_of_mem_all member
  have noTest : ¬ position < condition.testEnd := by omega
  have noValue : ¬ position < condition.position := by omega
  simp [guards, noTest, noValue]

end InlineCondition

/-! ## The reads of an operand -/

/-- The read, which a test of its name guards if nothing else does. -/
def Occurrence.guarded (tested : String → Bool) (occurrence : Occurrence) : Occurrence :=
  { occurrence with
    guard := if occurrence.guard = .bare && tested occurrence.name then .conditional
      else occurrence.guard }

section Excerpt

variable {distance : Nat} {further extra : List Token}

theorem namesTest_excerpt (starts : EndsOperand further) (before : List Token) :
    namesTest (before.map (Token.later distance) ++ further) = namesTest before := by
  have noTest : ∀ token rest, further = token :: rest →
      token.isWord "is" = false ∧ token.isWord "not" = false := by
    rintro token rest rfl
    exact ⟨starts.isWord (by decide) (by decide), starts.isWord (by decide) (by decide)⟩
  cases before with
  | nil =>
      cases further with
      | nil => rfl
      | cons last others =>
          obtain ⟨notIs, notNot⟩ := noTest last others rfl
          cases others <;> simp [namesTest, notIs, notNot]
  | cons last before =>
      cases before with
      | nil =>
          cases further with
          | nil => rfl
          | cons previous others => simp [namesTest, (noTest previous others rfl).1]
      | cons previous before => rfl

/-- A word of an operand is read in a longer expression if it is read in the operand. -/
theorem isRead_excerpt {context inner : Context} (noFilter : context ≠ .filter)
    (noFilterInner : inner ≠ .filter) (starts : EndsOperand further) (ends : EndsOperand extra)
    (bound : List String) (before : List Token) (name : String) (after : List Token) :
    isRead context bound (before.map (Token.later distance) ++ further) name
        (after.map (Token.later distance) ++ extra) =
      isRead inner bound before name after := by
  have outside : (context == .filter) = false := by simpa using noFilter
  have inside : (inner == .filter) = false := by simpa using noFilterInner
  rw [isRead, isRead, callsSuper, callsSuper, ends.any_isSign, ends.any_isSign,
    starts.any_isSign_or, namesTest_excerpt starts, outside, inside]
  rfl

/-- An operand has the reads that it has by itself, in front of those behind it, if its conditions
guard the same reads and any others those of the names `tested`. -/
theorem occurrencesFrom_excerpt {source front behind : List Char} {tokens : List Token}
    (isRest : IsRest source tokens) {context inner : Context} (noFilter : context ≠ .filter)
    (noFilterInner : inner ≠ .filter) (starts : EndsOperand further) (ends : EndsOperand extra)
    (bound : List String) {conditions conditionsInner : List InlineCondition}
    {tested : String → Bool}
    (guards : ∀ position < tokens.length, ∀ name,
      (context == .test || conditions.any (·.guards (position + further.length) name)) =
        (inner == .test || conditionsInner.any (·.guards position name) || tested name))
    {before rest : List Token} (whole : before.reverse ++ rest = tokens) :
    occurrencesFrom (front ++ source ++ behind) context bound conditions
        (before.map (Token.later front.length) ++ further)
        (rest.map (Token.later front.length) ++ extra) =
      (occurrencesFrom source inner bound conditionsInner before rest).map
          (Occurrence.guarded tested) ++
        occurrencesFrom (front ++ source ++ behind) context bound conditions
          (tokens.reverse.map (Token.later front.length) ++ further) extra := by
  induction rest generalizing before with
  | nil =>
      rw [← whole]
      simp [occurrencesFrom]
  | cons token rest ih =>
      have step : (token :: before).reverse ++ rest = tokens := by
        rw [← whole]
        simp
      have others := ih step
      have isRestBehind : IsRest source rest :=
        isRest.suffix (step ▸ List.suffix_append _ _)
      have inside : before.length < tokens.length := by
        rw [← whole]
        simp
      rw [List.map_cons, List.cons_append] at others
      rw [List.map_cons, List.cons_append, occurrencesFrom, occurrencesFrom, others,
        Token.word?_later]
      cases token.word? with
      | none => rfl
      | some name =>
          dsimp only
          rw [isRead_excerpt noFilter noFilterInner starts ends]
          split
          · rw [fallback?_excerpt ends isRestBehind, List.length_append, List.length_map,
              guards _ inside, List.map_cons, List.cons_append, List.cons.injEq]
            refine ⟨?_, rfl⟩
            cases fallback? source rest with
            | some description => rfl
            | none =>
                rw [Occurrence.guarded]
                cases inner == .test || conditionsInner.any (·.guards before.length name)
                · rfl
                · rfl
          · rfl

end Excerpt

end Lineage.Template
