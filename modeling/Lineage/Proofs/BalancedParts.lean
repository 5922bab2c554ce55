import Lineage.Proofs.DefaultFilters

/-!
# Parts of a list whose brackets pair up

A list is cut at commas, at words and at signs that stand outside brackets, and at the ends of
groups.  Where the brackets of the list pair up, those of each part do so too, with the kinds of the
brackets: the brackets that are open at a place are followed as a stack (`openBehind?`), and a cut
stands where the stack is empty.
-/

namespace Lineage.Template

/-! ## The stack of open brackets -/

/-- The token opens a bracket or closes one. -/
def Token.isBracket (token : Token) : Bool :=
  token.opens?.isSome || token.closes?.isSome

/-- The brackets that are open behind the token if `pending` are open in front of it, innermost
first.  There are none if the token closes a bracket that is not the innermost one. -/
def Token.openBehind? (pending : List Bracket) (token : Token) : Option (List Bracket) :=
  match token.opens?, token.closes? with
  | some bracket, _ => some (bracket :: pending)
  | none, some bracket => if pending.head? = some bracket then some pending.tail else none
  | none, none => some pending

/-- The brackets that are open behind the list if `pending` are open in front of it. -/
def openBehind? (pending : List Bracket) (tokens : List Token) : Option (List Bracket) :=
  tokens.foldlM Token.openBehind? pending

section Stack

variable {pending left : List Bracket} {token : Token} {tokens first second : List Token}

theorem openBehind?_cons : openBehind? pending (token :: tokens) =
    (token.openBehind? pending).bind (openBehind? · tokens) :=
  List.foldlM_cons

theorem openBehind?_append : openBehind? pending (first ++ second) =
    (openBehind? pending first).bind (openBehind? · second) :=
  List.foldlM_append

theorem openBehind?_append_of_eq_some (behind : openBehind? pending first = some left) :
    openBehind? pending (first ++ second) = openBehind? left second := by
  rw [openBehind?_append, behind, Option.bind_some]

/-- Brackets pair up if none is open behind the list. -/
theorem pairBrackets_eq_ok_iff :
    pairBrackets pending tokens = .ok () ↔ openBehind? pending tokens = some [] := by
  induction tokens generalizing pending with
  | nil =>
      cases pending with
      | nil => simp [pairBrackets, openBehind?]
      | cons bracket pending => simp [pairBrackets, openBehind?]
  | cons token tokens ih =>
      rw [pairBrackets, openBehind?_cons, Token.openBehind?]
      cases token.opens? with
      | some bracket => exact ih
      | none =>
          cases token.closes? with
          | none => exact ih
          | some bracket =>
              by_cases innermost : pending.head? = some bracket
              · simp only [innermost, if_true]
                exact ih
              · simp [innermost]

/-- A token opens a bracket, or it closes one, or it is none. -/
theorem Token.bracket_cases (token : Token) :
    (∃ bracket, token.opens? = some bracket) ∨ (∃ bracket, token.closes? = some bracket) ∨
      token.isBracket = false := by
  rw [isBracket]
  cases token.opens? with
  | some bracket => exact Or.inl ⟨bracket, rfl⟩
  | none =>
      cases token.closes? with
      | some bracket => exact Or.inr (Or.inl ⟨bracket, rfl⟩)
      | none => exact Or.inr (Or.inr rfl)

theorem Token.openBehind?_of_opens? {bracket : Bracket} (opens : token.opens? = some bracket) :
    token.openBehind? pending = some (bracket :: pending) := by
  rw [openBehind?, opens]

theorem Token.openBehind?_of_closes? {bracket : Bracket} (closes : token.closes? = some bracket) :
    token.openBehind? pending =
      if pending.head? = some bracket then some pending.tail else none := by
  have noOpening : token.opens? = none := by
    rw [← Option.not_isSome_iff_eq_none]
    intro opens
    rw [Token.closes?_of_opens? opens] at closes
    cases closes
  rw [openBehind?, noOpening, closes]

theorem Token.openBehind?_of_not_isBracket (noBracket : token.isBracket = false) :
    token.openBehind? pending = some pending := by
  simp only [isBracket, Bool.or_eq_false_iff, Option.isSome_eq_false_iff,
    Option.isNone_iff_eq_none] at noBracket
  rw [openBehind?, noBracket.1, noBracket.2]

theorem Token.depthAfter_of_not_isBracket (noBracket : token.isBracket = false) (depth : Nat) :
    token.depthAfter depth = depth := by
  rw [isBracket, Bool.or_eq_false_iff, ← Bool.not_eq_true, ← Bool.not_eq_true] at noBracket
  exact depthAfter_of_other noBracket.1 noBracket.2 depth

/-- A list without brackets leaves the stack as it is. -/
theorem openBehind?_of_forall_not_isBracket
    (noBracket : ∀ token ∈ tokens, token.isBracket = false) :
    openBehind? pending tokens = some pending := by
  induction tokens with
  | nil => rfl
  | cons token tokens ih =>
      rw [List.forall_mem_cons] at noBracket
      rw [openBehind?_cons, Token.openBehind?_of_not_isBracket noBracket.1, Option.bind_some,
        ih noBracket.2]

theorem Token.length_openBehind? (behind : token.openBehind? pending = some left) :
    left.length = token.depthAfter pending.length := by
  rcases token.bracket_cases with ⟨bracket, opens⟩ | ⟨bracket, closes⟩ | noBracket
  · rw [openBehind?_of_opens? opens] at behind
    cases behind
    rw [depthAfter_of_opens? (Option.isSome_of_mem opens), List.length_cons]
  · rw [openBehind?_of_closes? closes] at behind
    split at behind
    · cases behind
      rw [depthAfter_of_closes? (Option.isSome_of_mem closes), List.length_tail]
    · cases behind
  · rw [openBehind?_of_not_isBracket noBracket] at behind
    cases behind
    rw [depthAfter_of_not_isBracket noBracket]

/-- As many brackets are open as are counted. -/
theorem length_openBehind? (behind : openBehind? pending tokens = some left) :
    left.length = depthBehind pending.length tokens := by
  induction tokens generalizing pending with
  | nil =>
      cases behind
      rfl
  | cons token tokens ih =>
      rw [openBehind?_cons, Option.bind_eq_some_iff] at behind
      obtain ⟨middle, here, later⟩ := behind
      rw [ih later, Token.length_openBehind? here]
      rfl

end Stack

/-! ## Tokens that are no brackets -/

theorem Token.isBracket_of_word? {token : Token} (isWord : token.word?.isSome = true) :
    token.isBracket = false := by
  obtain ⟨lexeme, start⟩ := token
  cases lexeme with
  | word name => rfl
  | _ => cases isWord

theorem Token.isBracket_of_isWord {token : Token} {word : String}
    (isWord : token.isWord word = true) : token.isBracket = false := by
  apply isBracket_of_word?
  rw [Token.isWord, beq_iff_eq] at isWord
  rw [word?, isWord]
  rfl

theorem Token.isBracket_of_isSign {token : Token} {sign : String}
    (isSign : token.isSign sign = true)
    (noBracket : (⟨.operator sign, 0⟩ : Token).isBracket = false) : token.isBracket = false := by
  rw [Token.isSign, beq_iff_eq] at isSign
  simpa only [isBracket, opens?, closes?, Token.isSign, isSign] using noBracket

/-! ## Cuts -/

section Cuts

variable {first second tokens : List Token} {separator : Token}

/-- Where no bracket is open, a list falls into two lists whose brackets pair up. -/
theorem pairs_of_append (pairs : pairBrackets [] (first ++ second) = .ok ())
    (outside : depthBehind 0 first = 0) :
    pairBrackets [] first = .ok () ∧ pairBrackets [] second = .ok () := by
  rw [pairBrackets_eq_ok_iff, openBehind?_append, Option.bind_eq_some_iff] at pairs
  obtain ⟨left, here, there⟩ := pairs
  have none : left = [] := by
    rw [← List.length_eq_zero_iff, length_openBehind? here]
    exact outside
  rw [none] at here there
  exact ⟨pairBrackets_eq_ok_iff.mpr here, pairBrackets_eq_ok_iff.mpr there⟩

/-- What stands behind a list whose brackets pair up. -/
theorem pairs_right (pairs : pairBrackets [] (first ++ second) = .ok ())
    (here : pairBrackets [] first = .ok ()) : pairBrackets [] second = .ok () := by
  rw [pairBrackets_eq_ok_iff] at here
  rwa [pairBrackets_eq_ok_iff, openBehind?_append_of_eq_some here,
    ← pairBrackets_eq_ok_iff] at pairs

/-- What stands in front of a list without brackets. -/
theorem pairs_left (pairs : pairBrackets [] (first ++ second) = .ok ())
    (noBracket : ∀ token ∈ second, token.isBracket = false) :
    pairBrackets [] first = .ok () := by
  rw [pairBrackets_eq_ok_iff, openBehind?_append, Option.bind_eq_some_iff] at pairs
  obtain ⟨left, here, there⟩ := pairs
  rw [openBehind?_of_forall_not_isBracket noBracket, Option.some.injEq] at there
  rwa [pairBrackets_eq_ok_iff, here, Option.some.injEq]

theorem pairs_of_forall_not_isBracket (noBracket : ∀ token ∈ tokens, token.isBracket = false) :
    pairBrackets [] tokens = .ok () :=
  pairBrackets_eq_ok_iff.mpr (openBehind?_of_forall_not_isBracket noBracket)

/-- The brackets of a list pair up on both sides of a separator outside brackets. -/
theorem pairs_of_separator (pairs : pairBrackets [] (first ++ separator :: second) = .ok ())
    (outside : depthBehind 0 first = 0) (noBracket : separator.isBracket = false) :
    pairBrackets [] first = .ok () ∧ pairBrackets [] second = .ok () := by
  obtain ⟨here, there⟩ := pairs_of_append pairs outside
  refine ⟨here, ?_⟩
  rw [← List.singleton_append] at there
  apply pairs_right there
  exact pairs_of_forall_not_isBracket (List.forall_mem_singleton.mpr noBracket)

end Cuts

/-! ## The first token outside brackets -/

theorem findTopLevel?_eq_some {p : Token → Bool} {depth position : Nat} {tokens : List Token}
    (found : findTopLevel? p depth tokens = some position) :
    ∃ token, tokens = tokens.take position ++ token :: tokens.drop (position + 1) ∧
      p token = true ∧ depthBehind depth (tokens.take position) = 0 := by
  induction tokens generalizing depth position with
  | nil => cases found
  | cons token tokens ih =>
      rw [findTopLevel?] at found
      split at found
      · rename_i here
        cases found
        simp only [Bool.and_eq_true, beq_iff_eq] at here
        exact ⟨token, rfl, here.2, here.1⟩
      · obtain ⟨later, isLater, rfl⟩ := Option.map_eq_some_iff.mp found
        obtain ⟨other, whole, satisfies, outside⟩ := ih isLater
        refine ⟨other, ?_, satisfies, outside⟩
        rw [List.take_succ_cons, List.drop_succ_cons, List.cons_append, ← whole]

/-- The two sides of the first token outside brackets that satisfies `p`. -/
theorem pairs_of_findTopLevel? {p : Token → Bool} {position : Nat} {tokens : List Token}
    (pairs : pairBrackets [] tokens = .ok ()) (found : findTopLevel? p 0 tokens = some position)
    (noBracket : ∀ token, p token = true → token.isBracket = false) :
    pairBrackets [] (tokens.take position) = .ok () ∧
      pairBrackets [] (tokens.drop (position + 1)) = .ok () := by
  obtain ⟨token, whole, satisfies, outside⟩ := findTopLevel?_eq_some found
  rw [whole] at pairs
  exact pairs_of_separator pairs outside (noBracket token satisfies)

/-! ## The parts between commas -/

theorem splitTopLevel_ne_nil (separates : Token → Bool) (depth : Nat) (tokens : List Token) :
    splitTopLevel separates depth tokens ≠ [] := by
  cases tokens with
  | nil => exact List.cons_ne_nil _ _
  | cons token rest =>
      rw [splitTopLevel]
      split
      · exact List.cons_ne_nil _ _
      · split
        · exact List.cons_ne_nil _ _
        · exact List.cons_ne_nil _ _

/-- A list that is cut has one part, or its first part ends in front of a separator. -/
theorem splitTopLevel_eq_cons {separates : Token → Bool} {depth : Nat}
    {tokens part : List Token} {parts : List (List Token)}
    (cut : splitTopLevel separates depth tokens = part :: parts) :
    (tokens = part ∧ parts = []) ∨
      ∃ separator rest, tokens = part ++ separator :: rest ∧ separates separator = true ∧
        separator.depthAfter (depthBehind depth part) = 0 ∧
        parts = splitTopLevel separates 0 rest := by
  induction tokens generalizing depth part with
  | nil =>
      cases cut
      exact Or.inl ⟨rfl, rfl⟩
  | cons token tokens ih =>
      rw [splitTopLevel] at cut
      split at cut
      · rename_i here
        cases cut
        simp only [Bool.and_eq_true, beq_iff_eq] at here
        exact Or.inr ⟨token, tokens, rfl, here.2, here.1, rfl⟩
      · cases later : splitTopLevel separates (token.depthAfter depth) tokens with
        | nil => exact absurd later (splitTopLevel_ne_nil _ _ _)
        | cons first others =>
            rw [later] at cut
            cases cut
            rcases ih later with ⟨rfl, rfl⟩ | ⟨separator, rest, rfl, separates, outside, rfl⟩
            · exact Or.inl ⟨rfl, rfl⟩
            · exact Or.inr ⟨separator, rest, rfl, separates, outside, rfl⟩

/-- Each part stands in the list. -/
theorem infix_of_mem_splitTopLevel {separates : Token → Bool} {depth : Nat}
    {tokens part : List Token} (member : part ∈ splitTopLevel separates depth tokens) :
    part <:+: tokens := by
  generalize cut : splitTopLevel separates depth tokens = parts at member
  induction parts generalizing tokens depth with
  | nil => cases member
  | cons first others ih =>
      rcases splitTopLevel_eq_cons cut with ⟨rfl, rfl⟩ | ⟨separator, rest, rfl, _, _, rfl⟩
      · cases List.mem_singleton.mp member
        exact List.infix_rfl
      · rcases List.mem_cons.mp member with rfl | later
        · exact (List.prefix_append part _).isInfix
        · have behind := (List.suffix_cons separator rest).trans (List.suffix_append first _)
          exact (ih rfl later).trans behind.isInfix

/-- The parts between separators outside brackets pair up their brackets if the list does. -/
theorem pairs_of_mem_splitTopLevel {separates : Token → Bool} {tokens part : List Token}
    (noBracket : ∀ token, separates token = true → token.isBracket = false)
    (pairs : pairBrackets [] tokens = .ok ()) (member : part ∈ splitTopLevel separates 0 tokens) :
    pairBrackets [] part = .ok () := by
  generalize cut : splitTopLevel separates 0 tokens = parts at member
  induction parts generalizing tokens with
  | nil => cases member
  | cons first others ih =>
      rcases splitTopLevel_eq_cons cut with ⟨rfl, rfl⟩ | ⟨separator, rest, rfl, isEnd, outside, rfl⟩
      · rwa [List.mem_singleton.mp member]
      · have plain := noBracket separator isEnd
        rw [Token.depthAfter_of_not_isBracket plain] at outside
        obtain ⟨here, there⟩ := pairs_of_separator pairs outside plain
        rcases List.mem_cons.mp member with rfl | later
        · exact here
        · exact ih there rfl later

theorem infix_of_mem_commaParts {tokens part : List Token} (member : part ∈ commaParts tokens) :
    part <:+: tokens :=
  infix_of_mem_splitTopLevel member

theorem pairs_of_mem_commaParts {tokens part : List Token} (pairs : pairBrackets [] tokens = .ok ())
    (member : part ∈ commaParts tokens) : pairBrackets [] part = .ok () :=
  pairs_of_mem_splitTopLevel (fun _ isComma => Token.isBracket_of_isSign isComma (by decide)) pairs
    member

/-! ## Groups -/

theorem Token.isSign_opening {token : Token} {bracket : Bracket}
    (opens : token.opens? = some bracket) : token.isSign bracket.opening = true := by
  simpa using List.find?_some opens

theorem Token.isSign_closing {token : Token} {bracket : Bracket}
    (closes : token.closes? = some bracket) : token.isSign bracket.closing = true := by
  simpa using List.find?_some closes

section Around

variable {token : Token} {pending left outer : List Bracket} {bracket : Bracket}

/-- Brackets around those that a token needs do not matter to it. -/
theorem Token.openBehind?_around (behind : token.openBehind? pending = some left)
    (outer : List Bracket) : token.openBehind? (pending ++ outer) = some (left ++ outer) := by
  rcases token.bracket_cases with ⟨bracket, opens⟩ | ⟨bracket, closes⟩ | noBracket
  · rw [openBehind?_of_opens? opens] at behind ⊢
    cases behind
    rfl
  · rw [openBehind?_of_closes? closes] at behind ⊢
    split at behind
    · rename_i innermost
      obtain ⟨others, rfl⟩ := List.head?_eq_some_iff.mp innermost
      cases behind
      simp
    · cases behind
  · rw [openBehind?_of_not_isBracket noBracket] at behind ⊢
    cases behind
    rfl

/-- Brackets around those that a list needs do not matter to it. -/
theorem openBehind?_around {tokens : List Token} (behind : openBehind? pending tokens = some left)
    (outer : List Bracket) : openBehind? (pending ++ outer) tokens = some (left ++ outer) := by
  induction tokens generalizing pending with
  | nil =>
      cases behind
      rfl
  | cons token tokens ih =>
      rw [openBehind?_cons, Option.bind_eq_some_iff] at behind
      obtain ⟨middle, here, there⟩ := behind
      rw [openBehind?_cons, Token.openBehind?_around here, Option.bind_some, ih there]

/-- A token that closes a bracket needs an open one. -/
theorem Token.length_pos_of_openBehind? (behind : token.openBehind? pending = some left)
    (isClosing : token.closes?.isSome = true) : 0 < pending.length := by
  obtain ⟨bracket, closes⟩ := Option.isSome_iff_exists.mp isClosing
  rw [openBehind?_of_closes? closes] at behind
  cases pending with
  | nil => cases behind
  | cons first others => exact Nat.succ_pos _

/-- A token for which only a bracket around `pending` is open closes that bracket. -/
theorem Token.closes?_of_openBehind?
    (behind : token.openBehind? (pending ++ bracket :: outer) = some left)
    (unpaired : token.openBehind? pending = none) :
    pending = [] ∧ token.closes? = some bracket := by
  rcases token.bracket_cases with ⟨other, opens⟩ | ⟨other, closes⟩ | noBracket
  · rw [openBehind?_of_opens? opens] at unpaired
    cases unpaired
  · rw [openBehind?_of_closes? closes] at behind unpaired
    cases pending with
    | nil =>
        simp only [List.nil_append, List.head?_cons, Option.some.injEq,
          Option.ite_none_right_eq_some] at behind
        exact ⟨rfl, by rw [closes, behind.1]⟩
    | cons first others => simp_all
  · rw [openBehind?_of_not_isBracket noBracket] at unpaired
    cases unpaired

end Around

/-- The group around the brackets `pending` ends where they have been closed and `bracket` is closed
next. -/
theorem exists_group_end {bracket : Bracket} {pending outer : List Bracket} {tokens : List Token}
    (pairs : openBehind? (pending ++ bracket :: outer) tokens = some []) :
    ∃ inner last rest, tokens = inner ++ last :: rest ∧ last.isSign bracket.closing = true ∧
      openBehind? pending inner = some [] ∧
      groupSize (pending.length + 1) tokens = inner.length + 1 := by
  induction tokens generalizing pending with
  | nil =>
      have none : pending ++ bracket :: outer = [] := Option.some.inj pairs
      simp at none
  | cons token tokens ih =>
      rw [openBehind?_cons, Option.bind_eq_some_iff] at pairs
      obtain ⟨behind, here, there⟩ := pairs
      cases own : token.openBehind? pending with
      | some left =>
          cases here.symm.trans (Token.openBehind?_around own _)
          obtain ⟨inner, last, rest, rfl, isLast, inside, size⟩ := ih there
          refine ⟨token :: inner, last, rest, rfl, isLast, ?_, ?_⟩
          · rw [openBehind?_cons, own, Option.bind_some, inside]
          · have depth : token.depthAfter (pending.length + 1) = left.length + 1 := by
              rw [Token.depthAfter_add (Token.length_pos_of_openBehind? own),
                Token.length_openBehind? own]
            rw [groupSize, depth, size]
            simp
      | none =>
          obtain ⟨rfl, closes⟩ := Token.closes?_of_openBehind? here own
          have isClosing : token.closes?.isSome = true := by rw [closes]; rfl
          refine ⟨[], token, tokens, rfl, Token.isSign_closing closes, rfl, ?_⟩
          rw [groupSize, isClosing, List.length_nil, Token.depthAfter_of_closes? isClosing]
          rfl

/-- A bracket that is closed in the list begins a group, up to the bracket that closes it. -/
theorem isGroup_group {pending : List Bracket} {bracket : Bracket} {first : Token}
    {rest : List Token} (pairs : openBehind? pending (first :: rest) = some [])
    (opens : first.opens? = some bracket) : IsGroup bracket (group (first :: rest)) := by
  have isOpening : first.opens?.isSome = true := by rw [opens]; rfl
  rw [openBehind?_cons, Token.openBehind?_of_opens? opens, Option.bind_some] at pairs
  obtain ⟨inner, last, others, rfl, isLast, inside, size⟩ :=
    exists_group_end (List.nil_append (bracket :: pending) ▸ pairs)
  refine ⟨first, inner, last, ?_, Token.isSign_opening opens, isLast,
    pairBrackets_eq_ok_iff.mpr inside⟩
  have whole : groupSize 0 (first :: (inner ++ last :: others)) = inner.length + 2 := by
    rw [groupSize, Token.closes?_of_opens? isOpening, Token.depthAfter_of_opens? isOpening]
    simpa using size
  have front : inner ++ last :: others = (inner ++ [last]) ++ others := by simp
  rw [group, whole, List.take_succ_cons, front, List.take_left' (by simp)]

/-! ## Modifiers -/

/-- The modifiers at the end of an inclusion are words. -/
theorem exists_withoutModifiers (tokens : List Token) :
    ∃ words, tokens = withoutModifiers tokens ++ words ∧
      ∀ token ∈ words, token.isBracket = false := by
  suffices kept : ∃ words, tokens.reverse = words ++ dropModifiers tokens.reverse ∧
      ∀ token ∈ words, token.isBracket = false by
    obtain ⟨words, whole, areWords⟩ := kept
    refine ⟨words.reverse, ?_, fun token member => areWords token (List.mem_reverse.mp member)⟩
    rw [withoutModifiers, ← List.reverse_append, ← whole, List.reverse_reverse]
  generalize tokens.reverse = reversed
  induction reversed using dropModifiers.induct with
  | case1 second first rest isModifier ih =>
      obtain ⟨words, whole, areWords⟩ := ih
      have arePlain : first.isBracket = false ∧ second.isBracket = false := by
        simp only [Bool.or_eq_true, Bool.and_eq_true] at isModifier
        rcases isModifier with ⟨isFirst | isFirst, isSecond⟩ | ⟨isFirst, isSecond⟩
        all_goals
          exact ⟨Token.isBracket_of_isWord isFirst, Token.isBracket_of_isWord isSecond⟩
      refine ⟨second :: first :: words, ?_, ?_⟩
      · rw [dropModifiers, if_pos isModifier, List.cons_append, List.cons_append, ← whole]
      · simpa [arePlain] using areWords
  | case2 second first rest noModifier =>
      refine ⟨[], ?_, List.forall_mem_nil _⟩
      rw [dropModifiers, if_neg noModifier, List.nil_append]
  | case3 tokens short =>
      refine ⟨[], ?_, List.forall_mem_nil _⟩
      rw [dropModifiers.eq_2 _ short, List.nil_append]

theorem withoutModifiers_isPrefix (tokens : List Token) : withoutModifiers tokens <+: tokens := by
  obtain ⟨words, whole, _⟩ := exists_withoutModifiers tokens
  exact ⟨words, whole.symm⟩

theorem pairs_withoutModifiers {tokens : List Token} (pairs : pairBrackets [] tokens = .ok ()) :
    pairBrackets [] (withoutModifiers tokens) = .ok () := by
  obtain ⟨words, whole, areWords⟩ := exists_withoutModifiers tokens
  rw [whole] at pairs
  exact pairs_left pairs areWords

end Lineage.Template
