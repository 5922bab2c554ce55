import Lineage.Bytewise.Reading
import Lineage.Proofs.BytewiseGroups
import Lineage.Proofs.InlineConditions

/-!
# Inline conditions by positions

The test and the value of an inline condition end at positions inside the list, and the marks are
set inside the mask.  What a word is marked for is what the conditions of the list guard
(`markConditions_eq`); the marks of other tokens are of no use to anyone.
-/

namespace Lineage.Bytewise

open Lineage.Text Lineage.Template

variable (source : List Char)

/-! ## Tokens around a position -/

section Positions

variable (before : List Token) (token : Token) (rest : List Token)

theorem length_around : ((before.reverse ++ token :: rest).map (place source)).length =
    before.length + 1 + rest.length := by
  simp only [List.length_map, List.length_append, List.length_reverse, List.length_cons]
  omega

theorem getElem?_at : ((before.reverse ++ token :: rest).map (place source))[before.length]? =
    some (place source token) := by
  simp

theorem drop_behind : ((before.reverse ++ token :: rest).map (place source)).drop
    (before.length + 1) = rest.map (place source) := by
  rw [← List.map_drop, ← List.length_reverse, List.append_cons, ← List.length_singleton,
    ← List.length_append, List.drop_left]

theorem getElem?_before (distance : Nat) (inside : distance < before.length) :
    ((before.reverse ++ token :: rest).map (place source))[before.length - 1 - distance]? =
      before[distance]?.map (place source) := by
  rw [List.getElem?_map, List.getElem?_append_left (by rw [List.length_reverse]; omega),
    List.getElem?_reverse (by omega)]
  congr 2
  omega

end Positions

/-! ## Tests and values -/

/-- A token as the readings of tests and values tell it apart: an opening bracket, a closing one, or
none of them. -/
theorem bracket_cases (token : Token) :
    (token.opens?.isSome = true ∧ token.closes?.isSome = false ∧
        (∀ depth, token.depthAfter depth = depth + 1) ∧
        token.isSign "," = false ∧ token.isWord "else" = false) ∨
      (token.opens?.isSome = false ∧ token.closes?.isSome = true ∧
        ∀ depth, token.depthAfter depth = depth - 1) ∨
      (token.opens?.isSome = false ∧ token.closes?.isSome = false ∧
        ∀ depth, token.depthAfter depth = depth) := by
  cases opens : token.opens?.isSome with
  | true =>
      have noComma : token.isSign "," = false := by
        rw [← Bool.not_eq_true]
        intro isComma
        have plain := Token.isBracket_of_isSign isComma (by decide)
        simp [Token.isBracket, opens] at plain
      have noWord : token.isWord "else" = false := by
        rw [← Bool.not_eq_true]
        intro isWord
        have plain := Token.isBracket_of_isWord isWord
        simp [Token.isBracket, opens] at plain
      exact .inl ⟨rfl, by rw [Token.closes?_of_opens? opens]; rfl,
        Token.depthAfter_of_opens? opens, noComma, noWord⟩
  | false =>
      cases closes : token.closes?.isSome with
      | true => exact .inr (.inl ⟨rfl, rfl, Token.depthAfter_of_closes? closes⟩)
      | false =>
          exact .inr (.inr ⟨rfl, rfl,
            Token.depthAfter_of_other (by simp [opens]) (by simp [closes])⟩)

/-- A comma or an `else` outside of brackets ends a test or a value. -/
theorem endsPart_iff {depth : Nat} {token : Token} :
    (depth == 0 && (token.isSign "," || token.isWord "else")) = true ↔
      depth = 0 ∧ (token.isSign "," ∨ token.isWord "else") := by
  simp

/-- A test ends behind as many tokens as it has. -/
theorem testEnd?_eq (depth index : Nat) (tokens : List Token) :
    (testEnd? depth index (tokens.map (place source))).map (·.getD (index + tokens.length)) =
      some (index + testLength depth tokens) := by
  induction tokens generalizing depth index with
  | nil => rfl
  | cons token rest ih =>
      have later : ∀ depth, (testEnd? depth (index + 1) (rest.map (place source))).map
          (·.getD (index + (rest.length + 1))) = some (index + (testLength depth rest + 1)) := by
        intro depth
        have next := ih depth (index + 1)
        rwa [Nat.add_assoc, Nat.add_comm 1, Nat.add_assoc, Nat.add_comm 1] at next
      rw [List.map_cons, testEnd?, testLength, opens?_place, closes?_place, isSign_place,
        isWord_place, List.length_cons]
      rcases bracket_cases token with ⟨opens, closes, depthAfter, noComma, noWord⟩ |
        ⟨opens, closes, depthAfter⟩ | ⟨opens, closes, depthAfter⟩
      · simp only [opens, closes, depthAfter, noComma, noWord, if_true, Bool.or_self,
          Bool.and_false, Bool.false_eq_true, if_false]
        exact later (depth + 1)
      · cases depth with
        | zero => simp [opens, closes]
        | succ depth =>
            have fewer : minus? (depth + 1) 1 = some depth := minus?_of_le (Nat.le_add_left _ _)
            simp only [opens, closes, depthAfter, Bool.false_eq_true, if_false, if_true, fewer,
              Nat.add_one_ne_zero, Option.bind_eq_bind, Option.bind_some, Nat.add_sub_cancel,
              beq_eq_false_iff_ne.mpr (Nat.add_one_ne_zero depth), Bool.false_and]
            exact later depth
      · simp only [opens, closes, depthAfter, Bool.false_eq_true, if_false, Bool.false_or]
        by_cases ends : depth = 0 ∧ (token.isSign "," ∨ token.isWord "else")
        · rw [if_pos ends, if_pos (endsPart_iff.mpr ends)]
          rfl
        · rw [if_neg ends, if_neg (mt endsPart_iff.mp ends)]
          exact later depth

/-- The test behind an inline `if`. -/
theorem testEnd_eq (before : List Token) (token : Token) (rest : List Token) :
    testEnd ((before.reverse ++ token :: rest).map (place source)) before.length =
      some (before.length + 1 + testLength 0 rest) := by
  have found := testEnd?_eq source 0 (before.length + 1) rest
  rw [testEnd, drop_behind, length_around]
  cases ends : testEnd? 0 (before.length + 1) (rest.map (place source)) with
  | none => rw [ends] at found; cases found
  | some stop =>
      rw [ends] at found
      exact found

/-- A value begins in front of as many tokens as it has. -/
theorem valueStart_eq (depth : Nat) (before rest : List Token) :
    valueStart ((before.reverse ++ rest).map (place source)) depth before.length =
      some (before.length - valueLength depth before) := by
  induction before generalizing depth rest with
  | nil => rfl
  | cons token before ih =>
      have later : ∀ depth,
          valueStart ((before.reverse ++ token :: rest).map (place source)) depth before.length =
            some (before.length + 1 - (valueLength depth before + 1)) := by
        intro depth
        rw [Nat.add_sub_add_right]
        exact ih depth (token :: rest)
      rw [List.reverse_cons, List.append_assoc, List.singleton_append, List.length_cons, valueStart,
        getElem?_at, Option.bind_eq_bind, Option.bind_some, valueLength, opens?_place,
        closes?_place, isSign_place, isWord_place]
      rcases bracket_cases token with ⟨opens, closes, _, _, _⟩ | ⟨opens, closes, _⟩ |
        ⟨opens, closes, _⟩
      · cases depth with
        | zero => simp [opens, closes]
        | succ depth =>
            have fewer : minus? (depth + 1) 1 = some depth := minus?_of_le (Nat.le_add_left _ _)
            simp only [opens, closes, Bool.false_eq_true, if_false, if_true, fewer,
              Nat.add_one_ne_zero, Option.bind_eq_bind, Option.bind_some, Nat.add_sub_cancel,
              beq_eq_false_iff_ne.mpr (Nat.add_one_ne_zero depth)]
            exact later depth
      · simp only [closes, if_true]
        exact later (depth + 1)
      · simp only [opens, closes, Bool.false_eq_true, if_false]
        by_cases ends : depth = 0 ∧ (token.isSign "," ∨ token.isWord "else")
        · rw [if_pos ends, if_pos (endsPart_iff.mpr ends)]
          rfl
        · rw [if_neg ends, if_neg (mt endsPart_iff.mp ends)]
          exact later depth

/-! ## Marks -/

/-- The mask has a mark for every token, and a word is marked if it is guarded. -/
structure Marks (tokens : List Token) (guarded : Nat → String → Bool) (mask : List Bool) :
    Prop where
  length : mask.length = tokens.length
  marked : ∀ (index : Nat) (name : String), tokens[index]?.bind Token.word? = some name →
    mask[index]? = some (guarded index name)

theorem marks_replicate (tokens : List Token) :
    Marks tokens (fun _ _ => false) (List.replicate tokens.length false) where
  length := List.length_replicate
  marked index name isWord := by
    obtain ⟨token, here, _⟩ := Option.bind_eq_some_iff.mp isWord
    rw [List.getElem?_replicate, if_pos (List.getElem?_eq_some_iff.mp here).1]

section Marking

variable {tokens : List Token} {guarded : Nat → String → Bool} {mask : List Bool}

theorem Marks.congr {guarded' : Nat → String → Bool} (marks : Marks tokens guarded mask)
    (same : ∀ (index : Nat) (name : String), tokens[index]?.bind Token.word? = some name →
      guarded index name = guarded' index name) : Marks tokens guarded' mask where
  length := marks.length
  marked index name isWord := by rw [marks.marked index name isWord, same index name isWord]

/-- A mark that is set inside the mask. -/
theorem Marks.set? (marks : Marks tokens guarded mask) {place : Nat}
    (inside : place < tokens.length) : ∃ marked, Bytewise.set? mask place true = some marked ∧
      Marks tokens (fun index name => guarded index name || index == place) marked := by
  refine ⟨_, if_pos (by rwa [marks.length]), by rw [List.length_set, marks.length], ?_⟩
  intro index name isWord
  have here := marks.marked index name isWord
  rw [List.getElem?_set]
  split
  · rename_i same
    subst same
    rw [if_pos (by rwa [marks.length]), beq_self_eq_true, Bool.or_true]
  · rename_i other
    rw [here, beq_eq_false_iff_ne.mpr (Ne.symm other), Bool.or_false]

theorem word?_eq_some {token : Token} {name : String} (isWord : token.word? = some name) :
    (place source token).kind = .word ∧ (place source token).text = name.toList := by
  rcases token with ⟨lexeme, start⟩
  cases lexeme <;> cases isWord
  exact ⟨rfl, rfl⟩

theorem kind_of_word?_eq_none {token : Token} (noWord : token.word? = none) :
    (place source token).kind ≠ .word := by
  rcases token with ⟨lexeme, start⟩
  cases lexeme with
  | word name => cases noWord
  | _ => exact Kind.noConfusion

theorem between_zero (start index : Nat) :
    (decide (start ≤ index) && decide (index < start + 0)) = false := by
  rw [Bool.and_eq_false_iff, decide_eq_false_iff_not, decide_eq_false_iff_not]
  omega

/-- Among the indexes from `start` on, the first one is `start`. -/
theorem between_succ (start count index : Nat) :
    (decide (start ≤ index) && decide (index < start + (count + 1))) =
      (index == start || (decide (start + 1 ≤ index) && decide (index < start + 1 + count))) := by
  rw [Bool.eq_iff_iff]
  simp only [Bool.or_eq_true, beq_iff_eq, Bool.and_eq_true, decide_eq_true_eq]
  omega

/-- The tokens of a test are marked, and the names among them are noted. -/
theorem Marks.markTest (marks : Marks tokens guarded mask) (start count : Nat)
    (tested : List (List Char)) (inside : start + count ≤ tokens.length) :
    ∃ marked, Bytewise.markTest (tokens.map (place source)) mask tested
        (List.range' start count) =
          some (marked, tested ++ (wordsIn ((tokens.drop start).take count)).map String.toList) ∧
      Marks tokens (fun index name => guarded index name ||
        (decide (start ≤ index) && decide (index < start + count))) marked := by
  induction count generalizing start mask tested guarded with
  | zero =>
      refine ⟨mask, by simp [Bytewise.markTest, wordsIn], marks.congr fun index name _ => ?_⟩
      rw [between_zero, Bool.or_false]
  | succ count ih =>
      have here : start < tokens.length := by omega
      obtain ⟨token, isToken⟩ : ∃ token, tokens[start]? = some token :=
        ⟨tokens[start], List.getElem?_eq_getElem here⟩
      have dropped : tokens.drop start = token :: tokens.drop (start + 1) := by
        rw [List.drop_eq_getElem_cons here, (List.getElem?_eq_some_iff.mp isToken).2]
      obtain ⟨first, isFirst, marksFirst⟩ := marks.set? here
      obtain ⟨marked, isMarked, marksAll⟩ := ih marksFirst (start + 1)
        (tested ++ (wordsIn [token]).map String.toList) (by omega)
      refine ⟨marked, ?_, marksAll.congr fun index name _ => ?_⟩
      · have words : wordsIn ((tokens.drop start).take (count + 1)) =
            wordsIn [token] ++ wordsIn ((tokens.drop (start + 1)).take count) := by
          rw [dropped, List.take_succ_cons, wordsIn, wordsIn, wordsIn,
            ← List.singleton_append, List.filterMap_append, List.filter_append]
        rw [words, List.map_append, ← List.append_assoc, ← isMarked, List.range'_succ,
          Bytewise.markTest, isFirst, List.getElem?_map, isToken]
        simp only [Option.bind_eq_bind, Option.bind_some, Option.map_some, word?_place]
        cases isName : token.word? with
        | none => simp [wordsIn, isName]
        | some name =>
            have text := (word?_eq_some source isName).2
            by_cases keyword : keywords.contains name = true
            · rw [List.contains_iff_mem] at keyword
              simp [wordsIn, isName, keyword]
            · rw [List.contains_iff_mem] at keyword
              simp [wordsIn, isName, keyword, text]
      · rw [between_succ, Bool.or_assoc]

theorem contains_map_toList (names : List String) (name : String) :
    (names.map String.toList).contains name.toList = names.contains name := by
  rw [Bool.eq_iff_iff, List.contains_iff_mem, List.contains_iff_mem, List.mem_map]
  constructor
  · rintro ⟨other, member, same⟩
    rwa [← String.toList_inj.mp same]
  · exact fun member => ⟨name, member, rfl⟩

/-- The words of a value are marked that are among the noted names. -/
theorem Marks.markValue (marks : Marks tokens guarded mask) (start count : Nat)
    (tested : List String) (inside : start + count ≤ tokens.length) :
    ∃ marked, Bytewise.markValue (tokens.map (place source)) (tested.map String.toList) mask
        (List.range' start count) = some marked ∧
      Marks tokens (fun index name => guarded index name ||
        (decide (start ≤ index) && decide (index < start + count) && tested.contains name))
        marked := by
  induction count generalizing start mask guarded with
  | zero =>
      refine ⟨mask, rfl, marks.congr fun index name _ => ?_⟩
      rw [between_zero, Bool.false_and, Bool.or_false]
  | succ count ih =>
      have here : start < tokens.length := by omega
      obtain ⟨token, isToken⟩ : ∃ token, tokens[start]? = some token :=
        ⟨tokens[start], List.getElem?_eq_getElem here⟩
      rw [List.range'_succ, Bytewise.markValue, List.getElem?_map, isToken]
      simp only [Option.bind_eq_bind, Option.bind_some, Option.map_some]
      have words : (((tested.map String.toList).contains (place source token).text = true) ∧
          (place source token).kind = .word) ↔
            ∃ name, token.word? = some name ∧ tested.contains name = true := by
        cases isName : token.word? with
        | none => simp [kind_of_word?_eq_none source isName]
        | some name =>
            obtain ⟨isKind, text⟩ := word?_eq_some source isName
            rw [isKind, text, contains_map_toList]
            simp
      have isHere : ∀ {name : String}, tokens[start]?.bind Token.word? = some name →
          token.word? = some name := by
        intro name isWord
        rwa [isToken, Option.bind_some] at isWord
      by_cases member : ∃ name, token.word? = some name ∧ tested.contains name = true
      · obtain ⟨first, isFirst, marksFirst⟩ := marks.set? here
        obtain ⟨marked, isMarked, marksAll⟩ := ih marksFirst (start + 1) (by omega)
        refine ⟨marked, ?_, marksAll.congr fun index other isWord => ?_⟩
        · rw [if_pos (words.mpr member), isFirst, Option.bind_some, isMarked]
        · obtain ⟨name, isName, isTested⟩ := member
          have first : (index == start && tested.contains other) = (index == start) := by
            cases same : index == start with
            | false => rfl
            | true =>
                rw [beq_iff_eq.mp same] at isWord
                cases (isHere isWord).symm.trans isName
                exact isTested
          rw [between_succ, Bool.and_or_distrib_right, first, Bool.or_assoc]
      · obtain ⟨marked, isMarked, marksAll⟩ := ih marks (start + 1) (by omega)
        refine ⟨marked, ?_, marksAll.congr fun index name isWord => ?_⟩
        · rw [if_neg (mt words.mp member), isMarked]
        · have first : (index == start && tested.contains name) = false := by
            cases same : index == start with
            | false => rfl
            | true =>
                rw [beq_iff_eq.mp same] at isWord
                rw [Bool.true_and, ← Bool.not_eq_true]
                exact fun isTested => member ⟨name, isHere isWord, isTested⟩
          rw [between_succ, Bool.and_or_distrib_right, first, Bool.false_or]

end Marking

/-- The marks of a list are what its inline conditions guard. -/
theorem Marks.markConditions {before rest : List Token} {guarded : Nat → String → Bool}
    {mask : List Bool} (marks : Marks (before.reverse ++ rest) guarded mask) :
    ∃ marked, Bytewise.markConditions ((before.reverse ++ rest).map (place source)) mask
        before.length (rest.map (place source)) = some marked ∧
      Marks (before.reverse ++ rest) (fun index name => guarded index name ||
        (InlineCondition.all before rest).any (·.guards index name)) marked := by
  induction rest generalizing before guarded mask with
  | nil =>
      refine ⟨mask, rfl, marks.congr fun index name _ => ?_⟩
      rw [InlineCondition.all, List.any_nil, Bool.or_false]
  | cons token rest ih =>
      have source' : before.reverse ++ token :: rest = (token :: before).reverse ++ rest := by
        rw [List.reverse_cons, List.append_assoc, List.singleton_append]
      rw [List.map_cons, Bytewise.markConditions, isWord_place]
      by_cases isIf : token.isWord "if" = true ∧ before.length ≠ 0
      · have filled : before ≠ [] := List.length_pos_iff.mp (Nat.pos_of_ne_zero isIf.2)
        have length :
            (before.reverse ++ token :: rest).length = before.length + 1 + rest.length := by
          rw [← List.length_map (place source), length_around]
        have testFits := testLength_le 0 rest
        have valueFits := valueLength_le 0 before
        obtain ⟨first, isFirst, marksFirst⟩ := marks.markTest source
          (before.length + 1) (testLength 0 rest) [] (by omega)
        obtain ⟨second, isSecond, marksSecond⟩ := marksFirst.markValue source
          (before.length - valueLength 0 before) (valueLength 0 before)
          (wordsIn (rest.take (testLength 0 rest))) (by omega)
        rw [source'] at marksSecond
        obtain ⟨marked, isMarked, marksAll⟩ := ih marksSecond
        have behind : (before.reverse ++ token :: rest).drop (before.length + 1) = rest := by
          rw [source', List.drop_left' (by rw [List.length_reverse, List.length_cons])]
        have testSize : before.length + 1 + testLength 0 rest - (before.length + 1) =
            testLength 0 rest := Nat.add_sub_cancel_left _ _
        have valueSize : before.length - (before.length - valueLength 0 before) =
            valueLength 0 before := by omega
        rw [behind, List.nil_append] at isFirst
        rw [← source'] at isMarked marksAll
        refine ⟨marked, ?_, marksAll.congr fun index name _ => ?_⟩
        · rw [if_pos isIf, testEnd_eq, valueStart_eq]
          simp only [Option.bind_eq_bind, Option.bind_some, testSize, valueSize, isFirst, isSecond]
          exact isMarked
        · rw [InlineCondition.all_cons_of_if isIf.1 filled, List.any_cons, ← Bool.or_assoc]
          congr 1
          rw [Bool.or_assoc]
          congr 1
          have value : index < before.length - valueLength 0 before + valueLength 0 before ↔
              index < before.length := by omega
          simp only [InlineCondition.guards, InlineCondition.around, value]
          rfl
      · have unconditional : InlineCondition.all before (token :: rest) =
            InlineCondition.all (token :: before) rest := by
          rw [InlineCondition.all, if_neg]
          simpa using isIf
        rw [source'] at marks ⊢
        rw [if_neg isIf, unconditional]
        exact ih marks

/-- The marks that are set for a part of an expression. -/
theorem markConditions_eq (tokens : List Token) :
    ∃ mask, markConditions (tokens.map (place source))
        (List.replicate (tokens.map (place source)).length false) 0
        (tokens.map (place source)) = some mask ∧
      Marks tokens (fun index name =>
        (InlineCondition.all [] tokens).any (·.guards index name)) mask := by
  have marks : Marks ([].reverse ++ tokens) _ _ := marks_replicate tokens
  obtain ⟨mask, isMask, marksAll⟩ := marks.markConditions source
  rw [List.length_map]
  exact ⟨mask, isMask, marksAll.congr fun index name _ => Bool.false_or _⟩

end Lineage.Bytewise
