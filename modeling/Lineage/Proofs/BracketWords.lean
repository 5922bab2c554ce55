import Lineage.Proofs.BalancedParts

/-!
# Brackets as Dyck words

The brackets of a token list, read one after another, are a word over three kinds of opening and
closing signs.  The list is accepted exactly if that word is a Dyck word (`IsDyck`).

After that the kinds do not matter any more and brackets are only counted.  For an accepted list the
counting finds what the word says: a group ends behind the sign that closes it, and a cut at
separators outside brackets (`Cuts`) gives parts that are accepted themselves and hold no separator
outside their own brackets.
-/

namespace Lineage.Template

/-! ## Words of brackets -/

/-- A bracket as it is written. -/
inductive BracketSign where
  | opening (bracket : Bracket)
  | closing (bracket : Bracket)
deriving DecidableEq, Repr

/-- The bracket that the token is, if it is one. -/
def Token.bracketSign? (token : Token) : Option BracketSign :=
  match token.lexeme with
  | .operator "(" => some (.opening .round)
  | .operator "[" => some (.opening .square)
  | .operator "\x7b" => some (.opening .curly)
  | .operator ")" => some (.closing .round)
  | .operator "]" => some (.closing .square)
  | .operator "\x7d" => some (.closing .curly)
  | _ => none

/-- The brackets of a list, in their order. -/
def bracketSigns (tokens : List Token) : List BracketSign :=
  tokens.filterMap Token.bracketSign?

/-- Every bracket is closed by one of its kind, and pairs do not cross. -/
inductive IsDyck : List BracketSign → Prop
  | nil : IsDyck []
  | pair (bracket : Bracket) {inside behind : List BracketSign} (inner : IsDyck inside)
      (outer : IsDyck behind) : IsDyck (.opening bracket :: (inside ++ .closing bracket :: behind))

/-- The brackets that are open behind the sign if `pending` are open in front of it. -/
def BracketSign.openBehind? (pending : List Bracket) : BracketSign → Option (List Bracket)
  | .opening bracket => some (bracket :: pending)
  | .closing bracket => if pending.head? = some bracket then some pending.tail else none

/-- The brackets that are open behind a word if `pending` are open in front of it. -/
def signsBehind? (pending : List Bracket) (signs : List BracketSign) : Option (List Bracket) :=
  signs.foldlM BracketSign.openBehind? pending

theorem Token.bracketSign?_eq (token : Token) : token.bracketSign? =
    match token.opens?, token.closes? with
    | some bracket, _ => some (.opening bracket)
    | none, some bracket => some (.closing bracket)
    | none, none => none := by
  obtain ⟨lexeme, start⟩ := token
  cases lexeme with
  | operator sign =>
      unfold bracketSign?
      split <;> rename_i isSign
      case h_7 =>
        have noOpening : Token.opens? ⟨.operator sign, start⟩ = none := by
          rw [opens?, List.find?_eq_none]
          intro bracket _
          cases bracket <;> simp_all [Token.isSign, Bracket.opening]
        have noClosing : Token.closes? ⟨.operator sign, start⟩ = none := by
          rw [closes?, List.find?_eq_none]
          intro bracket _
          cases bracket <;> simp_all [Token.isSign, Bracket.closing]
        rw [noOpening, noClosing]
      all_goals
        cases isSign
        rfl
  | _ => rfl

theorem openBehind?_eq_signsBehind? (pending : List Bracket) (tokens : List Token) :
    openBehind? pending tokens = signsBehind? pending (bracketSigns tokens) := by
  induction tokens generalizing pending with
  | nil => rfl
  | cons token tokens ih =>
      have split := token.bracketSign?_eq
      rw [openBehind?_cons, Token.openBehind?, bracketSigns, List.filterMap_cons, split]
      cases token.opens? with
      | some bracket => exact ih _
      | none =>
          cases token.closes? with
          | none => exact ih _
          | some bracket =>
              dsimp only
              rw [signsBehind?, List.foldlM_cons, BracketSign.openBehind?]
              split
              · exact ih _
              · rfl

/-! ## Dyck words -/

section Words

variable {pending left : List Bracket} {signs first second : List BracketSign}

theorem signsBehind?_append : signsBehind? pending (first ++ second) =
    (signsBehind? pending first).bind (signsBehind? · second) :=
  List.foldlM_append

/-- Behind a Dyck word the same brackets are open as in front of it. -/
theorem IsDyck.signsBehind?_eq (isDyck : IsDyck signs) (pending : List Bracket) :
    signsBehind? pending signs = some pending := by
  induction isDyck generalizing pending with
  | nil => rfl
  | @pair bracket inside behind _ _ insideKeeps behindKeeps =>
      rw [signsBehind?, List.foldlM_cons]
      change signsBehind? (bracket :: pending) _ = _
      rw [signsBehind?_append, insideKeeps, Option.bind_some, signsBehind?, List.foldlM_cons,
        BracketSign.openBehind?, List.head?_cons, if_pos rfl]
      exact behindKeeps pending

/-- A word that closes the brackets that are open in front of it closes the innermost one behind a
Dyck word. -/
theorem exists_closing {bracket : Bracket} {pending : List Bracket} {signs : List BracketSign}
    (closed : signsBehind? (bracket :: pending) signs = some []) :
    ∃ inside behind, signs = inside ++ .closing bracket :: behind ∧ IsDyck inside ∧
      signsBehind? pending behind = some [] := by
  induction size : signs.length using Nat.strong_induction_on
    generalizing bracket pending signs with
  | _ size ih =>
      match signs with
      | [] => cases closed
      | .closing other :: rest =>
          rw [signsBehind?, List.foldlM_cons, BracketSign.openBehind?] at closed
          split at closed
          · rename_i same
            cases same
            exact ⟨[], rest, rfl, .nil, closed⟩
          · cases closed
      | .opening other :: rest =>
          -- The bracket that opens here is closed first; what is behind it closes the outer one.
          have here : signsBehind? (other :: bracket :: pending) rest = some [] := closed
          simp only [List.length_cons] at size
          obtain ⟨inner, middle, rfl, innerDyck, there⟩ := ih rest.length (by omega) here rfl
          simp only [List.length_append, List.length_cons] at size
          obtain ⟨outer, behind, rfl, outerDyck, last⟩ := ih middle.length (by omega) there rfl
          refine ⟨.opening other :: (inner ++ .closing other :: outer), behind, ?_,
            .pair other innerDyck outerDyck, last⟩
          simp only [List.cons_append, List.append_assoc]

/-- A word that opens and closes its own brackets is a Dyck word. -/
theorem isDyck_of_signsBehind? {signs : List BracketSign}
    (closed : signsBehind? [] signs = some []) : IsDyck signs := by
  induction size : signs.length using Nat.strong_induction_on generalizing signs with
  | _ size ih =>
      match signs with
      | [] => exact .nil
      | .closing bracket :: rest => cases closed
      | .opening bracket :: rest =>
          have opened : signsBehind? [bracket] rest = some [] := closed
          obtain ⟨inside, behind, rfl, insideDyck, last⟩ := exists_closing opened
          simp only [List.length_append, List.length_cons] at size
          exact .pair bracket insideDyck (ih behind.length (by omega) last rfl)

/-- Brackets pair up exactly if they form a Dyck word. -/
theorem pairs_iff_isDyck {tokens : List Token} :
    pairBrackets [] tokens = .ok () ↔ IsDyck (bracketSigns tokens) := by
  rw [pairBrackets_eq_ok_iff, openBehind?_eq_signsBehind?]
  exact ⟨isDyck_of_signsBehind?, fun isDyck => isDyck.signsBehind?_eq []⟩

end Words

/-! ## Places outside brackets -/

/-- The place behind the list is outside brackets: as many are opened in front of it as closed. -/
def IsOutside (before : List Token) : Prop :=
  before.countP (·.opens?.isSome) = before.countP (·.closes?.isSome)

/-- No token of the list that stands outside its brackets satisfies `p`. -/
def NoneOutside (p : Token → Bool) (tokens : List Token) : Prop :=
  ∀ before token behind, tokens = before ++ token :: behind → IsOutside before → p token = false

/-- At the position stands the first token outside brackets that satisfies `p`. -/
def IsFirstOutside (p : Token → Bool) (tokens : List Token) (position : Nat) : Prop :=
  ∃ before token behind, tokens = before ++ token :: behind ∧ before.length = position ∧
    p token = true ∧ IsOutside before ∧ NoneOutside p before

section Outside

variable {pending left : List Bracket} {token : Token} {tokens before behind : List Token}

/-- Of the brackets that are opened, those are left that are not closed. -/
theorem length_add_countP (open? : openBehind? pending tokens = some left) :
    left.length + tokens.countP (·.closes?.isSome) =
      pending.length + tokens.countP (·.opens?.isSome) := by
  induction tokens generalizing pending with
  | nil =>
      cases open?
      rfl
  | cons token tokens ih =>
      rw [openBehind?_cons, Option.bind_eq_some_iff] at open?
      obtain ⟨middle, here, there⟩ := open?
      have later := ih there
      have length := Token.length_openBehind? here
      rw [List.countP_cons, List.countP_cons]
      rcases token.bracket_cases with ⟨bracket, opens⟩ | ⟨bracket, closes⟩ | noBracket
      · have isOpening : token.opens?.isSome = true := Option.isSome_of_mem opens
        rw [Token.depthAfter_of_opens? isOpening] at length
        rw [Token.closes?_of_opens? isOpening, isOpening]
        simp only [Option.isSome_none, Bool.false_eq_true, if_false, if_true]
        omega
      · have isClosing : token.closes?.isSome = true := Option.isSome_of_mem closes
        have positive := Token.length_pos_of_openBehind? here isClosing
        have noOpening : token.opens?.isSome = false := by
          rw [← Bool.not_eq_true]
          intro opens
          rw [Token.closes?_of_opens? opens] at isClosing
          cases isClosing
        rw [Token.depthAfter_of_closes? isClosing] at length
        rw [isClosing, noOpening]
        simp only [Bool.false_eq_true, if_false, if_true]
        omega
      · rw [Token.depthAfter_of_not_isBracket noBracket] at length
        rw [Token.isBracket, Bool.or_eq_false_iff] at noBracket
        rw [noBracket.1, noBracket.2]
        simp only [Bool.false_eq_true, if_false]
        omega

/-- In front of a place of an accepted list, no bracket is counted as open exactly if it is outside
brackets. -/
theorem depthBehind_eq_zero_iff (pairs : pairBrackets [] (before ++ behind) = .ok ()) :
    depthBehind 0 before = 0 ↔ IsOutside before := by
  rw [pairBrackets_eq_ok_iff, openBehind?_append, Option.bind_eq_some_iff] at pairs
  obtain ⟨left, here, _⟩ := pairs
  have counted := length_add_countP here
  have depth : left.length = depthBehind 0 before := length_openBehind? here
  rw [List.length_nil] at counted
  rw [IsOutside, ← depth]
  omega

end Outside

/-! ## The first token outside brackets and the first part -/

section Cuts

variable {p : Token → Bool} {tokens : List Token}

/-- No token outside brackets is found exactly if none satisfies `p` where no bracket is counted as
open. -/
theorem findTopLevel?_eq_none_iff {depth : Nat} : findTopLevel? p depth tokens = none ↔
    ∀ before token behind, tokens = before ++ token :: behind → depthBehind depth before = 0 →
      p token = false := by
  induction tokens generalizing depth with
  | nil => simp [findTopLevel?]
  | cons first rest ih =>
      rw [findTopLevel?]
      constructor
      · intro nowhere before token behind whole outside
        split at nowhere
        · cases nowhere
        · rename_i notHere
          rw [Option.map_eq_none_iff] at nowhere
          cases before with
          | nil =>
              cases whole
              cases outside
              simpa using notHere
          | cons other before =>
              cases whole
              exact ih.mp nowhere before token behind rfl outside
      · intro none
        have notHere : (depth == 0 && p first) = false := by
          rw [Bool.and_eq_false_iff, beq_eq_false_iff_ne]
          by_cases outside : depth = 0
          · exact Or.inr (none [] first rest rfl outside)
          · exact Or.inl outside
        rw [notHere, if_neg Bool.false_ne_true, Option.map_eq_none_iff]
        exact ih.mpr fun before token behind whole outside =>
          none (first :: before) token behind (congrArg (first :: ·) whole) outside

/-- What is found behind a list in which nothing is found. -/
theorem findTopLevel?_behind {depth : Nat} {first second : List Token}
    (nowhere : findTopLevel? p depth first = none) : findTopLevel? p depth (first ++ second) =
      (findTopLevel? p (depthBehind depth first) second).map (· + first.length) := by
  induction first generalizing depth with
  | nil => simp [depthBehind]
  | cons token first ih =>
      rw [findTopLevel?] at nowhere
      split at nowhere
      · cases nowhere
      · rename_i notHere
        rw [List.cons_append, findTopLevel?, if_neg notHere,
          ih (Option.map_eq_none_iff.mp nowhere), Option.map_map]
        rfl

/-- In front of the token that is found, none is. -/
theorem findTopLevel?_take {depth position : Nat}
    (found : findTopLevel? p depth tokens = some position) :
    findTopLevel? p depth (tokens.take position) = none := by
  induction tokens generalizing depth position with
  | nil => cases found
  | cons first rest ih =>
      rw [findTopLevel?] at found
      split at found
      · cases found
        rfl
      · rename_i notHere
        obtain ⟨later, isLater, rfl⟩ := Option.map_eq_some_iff.mp found
        rw [List.take_succ_cons, findTopLevel?, if_neg notHere, ih isLater]
        rfl

/-- Where the cut begins: the first token outside brackets that satisfies `p` is the first
separator. -/
theorem splitTopLevel_eq (depth : Nat) (tokens : List Token)
    (noBracket : ∀ token, p token = true → token.isBracket = false) :
    splitTopLevel p depth tokens =
      match findTopLevel? p depth tokens with
      | some position =>
        tokens.take position :: splitTopLevel p 0 (tokens.drop (position + 1))
      | none => [tokens] := by
  induction tokens generalizing depth with
  | nil => rfl
  | cons first rest ih =>
      rw [splitTopLevel, findTopLevel?]
      by_cases satisfies : p first = true
      · -- A separator is no bracket: the depth is the same on both its sides.
        rw [Token.depthAfter_of_not_isBracket (noBracket first satisfies)]
        split
        · rfl
        · rw [ih]
          cases findTopLevel? p depth rest <;> rfl
      · rw [Bool.not_eq_true] at satisfies
        rw [satisfies, Bool.and_false, Bool.and_false, if_neg Bool.false_ne_true,
          if_neg Bool.false_ne_true, ih]
        cases findTopLevel? p (first.depthAfter depth) rest <;> rfl

end Cuts

/-! ## Cuts at separators -/

/-- The list is the parts, one after another, with a separator between any two. -/
inductive Joins (separates : Token → Bool) : List (List Token) → List Token → Prop
  | last (part : List Token) : Joins separates [part] part
  | cons (part : List Token) {separator : Token} {parts : List (List Token)} {rest : List Token}
      (isSeparator : separates separator = true) (others : Joins separates parts rest) :
      Joins separates (part :: parts) (part ++ separator :: rest)

/-- The parts are what is left of the list between its separators outside brackets, and `first?` is
the position of the first separator. -/
structure Cuts (separates : Token → Bool) (tokens : List Token) (parts : List (List Token))
    (first? : Option Nat) : Prop where
  joins : Joins separates parts tokens
  nested : ∀ part ∈ parts, IsDyck (bracketSigns part)
  noneOutside : ∀ part ∈ parts, NoneOutside separates part
  isFirst : ∀ position, first? = some position ↔ IsFirstOutside separates tokens position
  firstLength : ∀ position, first? = some position → parts.head?.map List.length = some position
  single : first? = none ↔ parts.length = 1

section Accepted

variable {separates : Token → Bool} {tokens : List Token}

theorem noneOutside_iff (pairs : pairBrackets [] tokens = .ok ()) :
    NoneOutside separates tokens ↔ findTopLevel? separates 0 tokens = none := by
  rw [findTopLevel?_eq_none_iff]
  constructor
  · rintro none before token behind rfl outside
    exact none before token behind rfl ((depthBehind_eq_zero_iff pairs).mp outside)
  · rintro none before token behind rfl outside
    exact none before token behind rfl ((depthBehind_eq_zero_iff pairs).mpr outside)

theorem findTopLevel?_eq_some_iff_isFirst (pairs : pairBrackets [] tokens = .ok ())
    (noBracket : ∀ token, separates token = true → token.isBracket = false) (position : Nat) :
    findTopLevel? separates 0 tokens = some position ↔
      IsFirstOutside separates tokens position := by
  constructor
  · intro found
    obtain ⟨token, whole, satisfies, outside⟩ := findTopLevel?_eq_some found
    have short : (tokens.take position).length = position := by
      have length := congrArg List.length whole
      rw [List.length_append, List.length_cons, List.length_drop, List.length_take] at length
      rw [List.length_take]
      omega
    have front := (pairs_of_findTopLevel? pairs found noBracket).1
    refine ⟨_, token, _, whole, short, satisfies, ?_, ?_⟩
    · rw [whole] at pairs
      exact (depthBehind_eq_zero_iff pairs).mp outside
    · exact (noneOutside_iff front).mpr (findTopLevel?_take found)
  · rintro ⟨before, token, behind, rfl, rfl, satisfies, outside, none⟩
    rw [← depthBehind_eq_zero_iff pairs] at outside
    have front := (pairs_of_separator pairs outside (noBracket token satisfies)).1
    rw [noneOutside_iff front] at none
    rw [findTopLevel?_behind none, outside, findTopLevel?, satisfies]
    simp

/-- The parts of an accepted list between separators that are no brackets. -/
theorem cuts_splitTopLevel (pairs : pairBrackets [] tokens = .ok ())
    (noBracket : ∀ token, separates token = true → token.isBracket = false) :
    Cuts separates tokens (splitTopLevel separates 0 tokens)
      (findTopLevel? separates 0 tokens) := by
  induction size : tokens.length using Nat.strong_induction_on generalizing tokens with
  | _ size ih =>
      have cut := splitTopLevel_eq 0 tokens noBracket
      have isFirst := findTopLevel?_eq_some_iff_isFirst pairs noBracket
      cases found : findTopLevel? separates 0 tokens with
      | none =>
          rw [found] at cut isFirst
          rw [cut]
          refine ⟨.last tokens, ?_, ?_, isFirst, nofun, iff_of_true rfl rfl⟩
          · exact List.forall_mem_singleton.mpr (pairs_iff_isDyck.mp pairs)
          · exact List.forall_mem_singleton.mpr ((noneOutside_iff pairs).mpr found)
      | some position =>
          obtain ⟨token, whole, satisfies, _⟩ := findTopLevel?_eq_some found
          obtain ⟨front, back⟩ := pairs_of_findTopLevel? pairs found noBracket
          have length := congrArg List.length whole
          rw [List.length_append, List.length_cons] at length
          have later := ih _ (by omega) back rfl
          rw [found] at cut isFirst
          rw [cut]
          refine ⟨?_, ?_, ?_, isFirst, ?_, ?_⟩
          · conv_rhs => rw [whole]
            exact .cons _ satisfies later.joins
          · exact List.forall_mem_cons.mpr ⟨pairs_iff_isDyck.mp front, later.nested⟩
          · exact List.forall_mem_cons.mpr
              ⟨(noneOutside_iff front).mpr (findTopLevel?_take found), later.noneOutside⟩
          · rintro _ ⟨⟩
            rw [List.length_take, List.length_drop] at length
            rw [List.head?_cons, Option.map_some, List.length_take, Nat.min_eq_left (by omega)]
          · have filled := splitTopLevel_ne_nil separates 0 (tokens.drop (position + 1))
            rw [← List.length_pos_iff_ne_nil] at filled
            rw [List.length_cons]
            refine iff_of_false nofun ?_
            omega

end Accepted

/-! ## Accepted lists -/

theorem Token.bracketSign?_eq_opening_iff {token : Token} {bracket : Bracket} :
    token.bracketSign? = some (.opening bracket) ↔ token.opens? = some bracket := by
  rw [bracketSign?_eq]
  cases token.opens? with
  | some other => simp
  | none => cases token.closes? <;> simp

theorem Token.bracketSign?_eq_closing_iff {token : Token} {bracket : Bracket} :
    token.bracketSign? = some (.closing bracket) ↔
      token.opens? = none ∧ token.closes? = some bracket := by
  rw [bracketSign?_eq]
  cases token.opens? with
  | some other => simp
  | none => cases token.closes? <;> simp

theorem Token.bracketSign?_eq_none_iff {token : Token} :
    token.bracketSign? = none ↔ token.isBracket = false := by
  rw [bracketSign?_eq, isBracket]
  cases token.opens? with
  | some other => simp
  | none => cases token.closes? <;> simp

/-- A bracket that is opened in an accepted list begins a group that ends behind the bracket that
closes it. -/
theorem exists_groupSize_eq {before behind : List Token} {opener : Token} {bracket : Bracket}
    (pairs : pairBrackets [] (before ++ opener :: behind) = .ok ())
    (opens : opener.bracketSign? = some (.opening bracket)) :
    ∃ inner closer rest, behind = inner ++ closer :: rest ∧
      closer.bracketSign? = some (.closing bracket) ∧ IsDyck (bracketSigns inner) ∧
      groupSize 0 (opener :: behind) = inner.length + 2 := by
  rw [Token.bracketSign?_eq_opening_iff] at opens
  rw [pairBrackets_eq_ok_iff, openBehind?_append, Option.bind_eq_some_iff] at pairs
  obtain ⟨pending, _, later⟩ := pairs
  rw [openBehind?_cons, Token.openBehind?_of_opens? opens, Option.bind_some] at later
  obtain ⟨inner, closer, rest, rfl, isClosing, inside, size⟩ :=
    exists_group_end (List.nil_append (bracket :: pending) ▸ later)
  refine ⟨inner, closer, rest, rfl, ?_, pairs_iff_isDyck.mp (pairBrackets_eq_ok_iff.mpr inside), ?_⟩
  · exact Token.bracketSign?_eq_closing_iff.mpr (Token.closes?_closing isClosing).symm
  · have isOpening : opener.opens?.isSome = true := Option.isSome_of_mem opens
    rw [List.length_nil, Nat.zero_add] at size
    rw [groupSize, Token.closes?_of_opens? isOpening, Token.depthAfter_of_opens? isOpening,
      Option.isSome_none, Bool.false_and, if_neg Bool.false_ne_true, size]

/-- A list is accepted exactly if its brackets form a Dyck word.  In an accepted list a group ends
behind the bracket that closes its first one, and the cut at separators that are no brackets finds
the parts between those outside brackets, and the first of these. -/
theorem pairBrackets_dyck (tokens : List Token) :
    (pairBrackets [] tokens = .ok () ↔ IsDyck (bracketSigns tokens)) ∧
    (pairBrackets [] tokens = .ok () →
      (∀ before opener behind bracket, tokens = before ++ opener :: behind →
        opener.bracketSign? = some (.opening bracket) →
        ∃ inner closer rest, tokens = before ++ opener :: (inner ++ closer :: rest) ∧
          closer.bracketSign? = some (.closing bracket) ∧ IsDyck (bracketSigns inner) ∧
          before.length + groupSize 0 (tokens.drop before.length) =
            (before ++ opener :: (inner ++ [closer])).length) ∧
      ∀ separates : Token → Bool, (∀ token, separates token = true → token.bracketSign? = none) →
        Cuts separates tokens (splitTopLevel separates 0 tokens)
          (findTopLevel? separates 0 tokens)) := by
  refine ⟨pairs_iff_isDyck, fun pairs => ⟨?_, ?_⟩⟩
  · rintro before opener behind bracket rfl opens
    obtain ⟨inner, closer, rest, rfl, closes, inside, size⟩ := exists_groupSize_eq pairs opens
    refine ⟨inner, closer, rest, rfl, closes, inside, ?_⟩
    rw [List.drop_left, size]
    simp only [List.length_append, List.length_cons, List.length_nil]
  · intro separates noBracket
    exact cuts_splitTopLevel pairs fun token satisfies =>
      Token.bracketSign?_eq_none_iff.mp (noBracket token satisfies)

/-- The tokens of `a, f(b, [c]), d`. -/
def argumentTokens : List Token :=
  [⟨.word "a", 0⟩, ⟨.operator ",", 1⟩, ⟨.word "f", 3⟩, ⟨.operator "(", 4⟩, ⟨.word "b", 5⟩,
    ⟨.operator ",", 6⟩, ⟨.operator "[", 8⟩, ⟨.word "c", 9⟩, ⟨.operator "]", 10⟩,
    ⟨.operator ")", 11⟩, ⟨.operator ",", 12⟩, ⟨.word "d", 14⟩]

/-- The group behind `f` has seven tokens, and two of the three commas stand outside it. -/
theorem pairBrackets_dyck_arguments :
    pairBrackets [] argumentTokens = .ok () ∧ IsDyck (bracketSigns argumentTokens) ∧
    (∃ inner closer rest, argumentTokens =
        argumentTokens.take 3 ++ ⟨.operator "(", 4⟩ :: (inner ++ closer :: rest) ∧
      closer.bracketSign? = some (.closing .round) ∧ IsDyck (bracketSigns inner) ∧
      3 + 7 = (argumentTokens.take 3 ++ ⟨.operator "(", 4⟩ :: (inner ++ [closer])).length) ∧
    Cuts (·.isSign ",") argumentTokens
      [argumentTokens.take 1, (argumentTokens.drop 2).take 8, argumentTokens.drop 11] (some 1) := by
  obtain ⟨isDyck_iff, accepted⟩ := pairBrackets_dyck argumentTokens
  have pairs : pairBrackets [] argumentTokens = .ok () := by decide
  obtain ⟨groups, cuts⟩ := accepted pairs
  refine ⟨pairs, isDyck_iff.mp pairs, ?_, ?_⟩
  · exact groups (argumentTokens.take 3) ⟨.operator "(", 4⟩ (argumentTokens.drop 4) .round rfl rfl
  · have noBracket : ∀ token : Token, token.isSign "," = true → token.bracketSign? = none := by
      rintro ⟨lexeme, start⟩ isComma
      rw [Token.isSign, beq_iff_eq] at isComma
      cases isComma
      rfl
    exact cuts (·.isSign ",") noBracket

end Lineage.Template
