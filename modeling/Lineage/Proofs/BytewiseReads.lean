import Lineage.Proofs.BytewiseConditions
import Lineage.Proofs.ReadNodes

/-!
# Reads by positions

The descriptions of fallbacks are slices between the positions of two tokens, of which the first one
stands in front of the other; the chains of suffixes and filters behind a word are followed inside
the list, and end.  What is found in a list of placed tokens is what the expression reads
(`scan_eq`).
-/

namespace Lineage.Bytewise

open Lineage.Text Lineage.Template

/-! ## Slices between tokens -/

theorem take_append_slice {α : Type} (list : List α) {start stop : Nat} (ordered : start ≤ stop) :
    list.take start ++ (list.drop start).take (stop - start) = list.take stop := by
  rw [← List.take_add, Nat.add_sub_cancel' ordered]

/-- The slice of a text between the bytes of two of its characters. -/
theorem slice?_take (source : List Char) (start stop : Nat) (ordered : start ≤ stop) :
    slice? source (byteLength (source.take start)) (byteLength (source.take stop)) =
      some ((source.drop start).take (stop - start)) := by
  have whole := take_append_slice source ordered
  refine slice?_eq_some_iff.mpr ⟨source.take start, source.drop stop, ?_, rfl, ?_⟩
  · rw [← List.append_assoc, whole, List.take_append_drop]
  · rw [← byteLength_append, whole]

/-- Two positions of characters are the same if they are the same in bytes. -/
theorem byteLength_take_inj {source : List Char} {m n : Nat} (mInside : m ≤ source.length)
    (nInside : n ≤ source.length) :
    byteLength (source.take m) = byteLength (source.take n) ↔ m = n := by
  have less : ∀ {m n : Nat}, m < n → n ≤ source.length →
      byteLength (source.take m) < byteLength (source.take n) := by
    intro m n before inside
    rw [← take_append_slice source (Nat.le_of_lt before), byteLength_append]
    have filled : (source.drop m).take (n - m) ≠ [] := by
      rw [← List.length_pos_iff, List.length_take, List.length_drop]
      omega
    have positive := byteLength_pos filled
    omega
  constructor
  · intro same
    rcases Nat.lt_trichotomy m n with before | equal | behind
    · have := less before nInside
      omega
    · exact equal
    · have := less behind mInside
      omega
  · rintro rfl
    rfl

/-- The tokens stand in order in the text, and the marks of its literals are one byte each. -/
structure Fits (source : List Char) (tokens : List Token) : Prop where
  inOrder : InOrder tokens
  inside : ∀ token ∈ tokens, token.stop ≤ source.length
  marked : ∀ token ∈ tokens, ∀ mark inner, token.lexeme = .literal mark inner →
    mark.utf8Size = 1

theorem Fits.mono {source : List Char} {tokens part : List Token} (fits : Fits source tokens)
    (isPart : part <:+: tokens) : Fits source part where
  inOrder := fits.inOrder.mono isPart
  inside token member := fits.inside token (isPart.subset member)
  marked token member := fits.marked token (isPart.subset member)

theorem utf8Size_of_read_literal {c mark : Char} {rest inner after : List Char}
    (read : Lexeme.read c rest = .ok (.literal mark inner, after)) : mark.utf8Size = 1 := by
  cases read_eq_ok_iff.mp read with
  | literal _ _ isQuote _ => rcases isQuote with rfl | rfl <;> rfl

theorem utf8Size_of_reads {start : Nat} {text : List Char} {tokens : List Token}
    (reads : Token.Reads start text tokens) :
    ∀ token ∈ tokens, ∀ mark inner, token.lexeme = .literal mark inner → mark.utf8Size = 1 := by
  intro token member mark inner isLiteral
  obtain ⟨_, _, _, _, _, _, read⟩ := reads.exists_read token member
  rw [isLiteral] at read
  exact utf8Size_of_read_literal read

theorem fits_of_ofText {text : List Char} {whole : Expression}
    (found : Expression.ofText text = .ok whole) : Fits text whole.tokens := by
  have reads : Token.Reads 0 text whole.tokens := (Expression.ofText_eq_ok_iff.mp found).2.1
  refine ⟨reads.inOrder, fun token member => ?_, utf8Size_of_reads reads⟩
  simpa using reads.stop_le token member

section Descriptions

variable {source : List Char}

/-- What stands between the marks of a placed literal. -/
theorem unquoted_place {mark : Char} (size : mark.utf8Size = 1) (inner : List Char) (start : Nat) :
    (place source ⟨.literal mark inner, start⟩).unquoted = some inner := by
  have length : byteLength (mark :: inner ++ [mark]) = byteLength inner + 2 := by
    simp only [List.cons_append, byteLength, byteLength_append, size]
    omega
  have slice : slice? (mark :: inner ++ [mark]) 1 (byteLength inner + 2 - 1) = some inner := by
    refine slice?_eq_some_iff.mpr ⟨[mark], [mark], rfl, ?_, ?_⟩
    · rw [byteLength, byteLength, size]
    · omega
  have fewer : minus? (byteLength inner + 2) 1 = some (byteLength inner + 2 - 1) :=
    minus?_of_le (by omega)
  rw [PlacedToken.unquoted, if_pos]
  · simp only [place, Lexeme.source, length, fewer, slice, Option.bind_eq_bind, Option.bind_some]
  · exact ⟨rfl, length ▸ Nat.le_add_left 2 _⟩

/-- The description from a token to the end of one that is not in front of it. -/
theorem describeFrom_eq {first last : Token} (fits : Fits source [first])
    (ordered : first.stop ≤ last.stop) (inside : last.stop ≤ source.length) :
    describeFrom source (place source first) (place source last).stop =
      some (describe source first last.stop) := by
  have filled := fits.inOrder.filled first List.mem_cons_self
  have slice : slice? source (place source first).start (place source last).stop = _ :=
    slice?_take source first.start last.stop (by omega)
  have same : (place source first).stop = (place source last).stop ↔ first.stop = last.stop :=
    byteLength_take_inj (by omega) inside
  rw [describeFrom, describe, slice]
  simp only [same]
  rcases first with ⟨lexeme, start⟩
  cases lexeme with
  | literal mark inner =>
      have size := fits.marked _ List.mem_cons_self mark inner rfl
      rw [unquoted_place size]
      dsimp only
      split
      · rename_i ends
        rw [if_pos ends.2]
        rfl
      · rename_i goesOn
        rw [if_neg fun ends => goesOn ⟨rfl, ends⟩]
        rfl
  | _ =>
      rw [if_neg fun isLiteral => Kind.noConfusion isLiteral.1]
      rfl

end Descriptions

/-! ## Suffixes -/

section Chains

variable (source : List Char) {tokens rest : List Token} {index : Nat}

theorem getElem?_place (isRest : tokens.drop index = rest) (distance : Nat) :
    (tokens.map (place source))[index + distance]? = rest[distance]?.map (place source) := by
  rw [List.getElem?_map, ← isRest, List.getElem?_drop]

theorem any_isSign_place (isRest : tokens.drop index = rest) (distance : Nat) (sign : String) :
    (tokens.map (place source))[index + distance]?.any (·.isSign sign) =
      rest[distance]?.any (·.isSign sign) := by
  rw [getElem?_place source isRest]
  cases rest[distance]? <;> simp

theorem drop_of_drop (isRest : tokens.drop index = rest) (distance : Nat) :
    tokens.drop (index + distance) = rest.drop distance := by
  rw [← isRest, List.drop_drop]

theorem length_of_drop {token : Token} (isRest : tokens.drop index = token :: rest) :
    index + 1 + rest.length = tokens.length := by
  have length := congrArg List.length isRest
  rw [List.length_drop, List.length_cons] at length
  omega

/-- A group that begins at a position ends inside the list, and behind it is what is behind the
group. -/
theorem groupEnd_place {token : Token} (isRest : tokens.drop index = token :: rest) :
    groupEnd (tokens.map (place source)) index = index + groupSize 0 (token :: rest) ∧
      index + groupSize 0 (token :: rest) ≤ tokens.length ∧
      tokens.drop (index + groupSize 0 (token :: rest)) = afterGroup (token :: rest) := by
  have length := length_of_drop isRest
  have size := groupSize_le 0 (token :: rest)
  rw [List.length_cons] at size
  refine ⟨?_, by omega, drop_of_drop isRest _⟩
  rw [groupEnd_eq source (by omega), isRest]

/-- A point opens no bracket. -/
theorem noBracket_of_point {token : Token} (isPoint : token.isSign "." = true) :
    ¬ (token.isSign "(" = true ∨ token.isSign "[" = true) := by
  simp only [Token.isSign, beq_iff_eq] at isPoint ⊢
  rw [isPoint]
  decide

theorem groupSize_pos (token : Token) (rest : List Token) : 0 < groupSize 0 (token :: rest) := by
  rw [groupSize]
  split <;> omega

/-- How the suffixes are followed over the first token. -/
theorem suffixEnd_of_drop {first : Token} (isRest : tokens.drop index = first :: rest) :
    suffixEnd (tokens.map (place source)) index =
      if first.isSign "." ∧ rest.head?.any (·.word?.isSome) then
        suffixEnd (tokens.map (place source)) (index + 2)
      else if first.isSign "(" ∨ first.isSign "[" then
        suffixEnd (tokens.map (place source)) (index + groupSize 0 (first :: rest))
      else some index := by
  have length := length_of_drop isRest
  have here := getElem?_place source isRest 0
  have next : (tokens.map (place source))[index + 1]?.any (·.word?.isSome) =
      rest.head?.any (·.word?.isSome) := by
    rw [getElem?_place source isRest, List.getElem?_cons_succ, ← List.head?_eq_getElem?]
    cases rest.head? <;> simp
  have isEnd := (groupEnd_place source isRest).1
  have moves : index < groupEnd (tokens.map (place source)) index := by
    rw [isEnd]
    exact Nat.lt_add_of_pos_right (groupSize_pos first rest)
  rw [Nat.add_zero, List.getElem?_cons_zero, Option.map_some] at here
  rw [suffixEnd, List.length_map, if_pos (by omega), here]
  simp only [Option.bind_eq_bind, Option.bind_some, isSign_place, next, isBelow?_of_lt moves,
    Option.pure_def]
  rw [isEnd]

/-- The suffixes behind a word are followed to their end. -/
theorem suffixEnd_eq (isRest : tokens.drop index = rest) (inside : index ≤ tokens.length) :
    ∃ stop ≤ tokens.length, suffixEnd (tokens.map (place source)) index = some stop ∧
      tokens.drop stop = afterSuffixes rest := by
  induction rest using suffixes_induction generalizing index with
  | nil =>
      have atEnd := List.drop_eq_nil_iff.mp isRest
      refine ⟨index, inside, ?_, by rw [isRest, afterSuffixes]⟩
      rw [suffixEnd, List.length_map, if_neg (Nat.not_lt.mpr atEnd)]
      rfl
  | other first more noPoint noBracket =>
      have none : ¬ (first.isSign "(" = true ∨ first.isSign "[" = true) := by
        simpa using noBracket
      refine ⟨index, inside, ?_, by rw [isRest, afterSuffixes_of_other noPoint noBracket]⟩
      rw [suffixEnd_of_drop source isRest, noPoint, if_neg (by simp), if_neg none]
  | noName point more isPoint noName =>
      refine ⟨index, inside, ?_, by rw [isRest, afterSuffixes_of_noName isPoint noName]⟩
      rw [suffixEnd_of_drop source isRest, noName, if_neg (by simp),
        if_neg (noBracket_of_point isPoint)]
  | name point name more isPoint isWord ih =>
      have length := length_of_drop isRest
      rw [List.length_cons] at length
      obtain ⟨stop, fits, found, isAfter⟩ := ih (drop_of_drop isRest 2) (by omega)
      refine ⟨stop, fits, ?_, ?_⟩
      · rw [suffixEnd_of_drop source isRest, if_pos ⟨isPoint, isWord⟩, found]
      · rw [isAfter, afterSuffixes_of_name isPoint isWord]
  | bracket first more noPoint isBracket ih =>
      obtain ⟨_, fits, behind⟩ := groupEnd_place source isRest
      obtain ⟨stop, fits, found, isAfter⟩ := ih behind fits
      have bracket : first.isSign "(" = true ∨ first.isSign "[" = true := by
        simpa using isBracket
      refine ⟨stop, fits, ?_, ?_⟩
      · rw [suffixEnd_of_drop source isRest, noPoint, if_neg (by simp), if_pos bracket, found]
      · rw [isAfter, afterSuffixes_of_bracket noPoint isBracket]

/-! ## Descriptions -/

variable {source}

/-- The description from the first token of a list to one of its tokens. -/
theorem describeFrom_of_mem {first last : Token} (fits : Fits source (first :: rest))
    (member : last ∈ first :: rest) :
    describeFrom source (place source first) (place source last).stop =
      some (describe source first last.stop) := by
  refine describeFrom_eq (fits.mono ⟨[], rest, rfl⟩) ?_ (fits.inside last member)
  rcases List.mem_cons.mp member with rfl | behind
  · exact Nat.le_refl _
  · have ordered := (List.pairwise_cons.mp fits.inOrder.apart).1 last behind
    have filled := fits.inOrder.filled last member
    omega

theorem operandAt_eq (fits : Fits source tokens) (isRest : tokens.drop index = rest) :
    operandAt source (tokens.map (place source)) index =
      some (operandDescription? source rest) := by
  have here := getElem?_place source isRest 0
  have next := getElem?_place source isRest 1
  rw [Nat.add_zero] at here
  cases rest with
  | nil =>
      rw [operandAt, here]
      rfl
  | cons operand rest =>
      have fitsRest := fits.mono (isRest ▸ (List.drop_suffix index tokens).isInfix)
      have behind := drop_of_drop isRest 1
      have call : (tokens.map (place source))[index + 1]?.any
          (fun token => token.isSign "(" || token.isSign "[") = beginsWithCall rest := by
        rw [next, beginsWithCall, List.head?_eq_getElem?]
        change (rest[0]?.map _).any _ = _
        cases rest[0]? <;> simp
      rw [operandAt, here, operandDescription?, List.getElem?_cons_zero, Option.map_some]
      simp only [call]
      split
      · rename_i isCall
        cases rest with
        | nil => cases isCall
        | cons first rest =>
            obtain ⟨isEnd, _, _⟩ := groupEnd_place source behind
            have positive : 0 < groupSize 0 (first :: rest) := by
              rw [groupSize]
              split <;> omega
            have size := groupSize_le 0 (first :: rest)
            obtain ⟨last, isLast⟩ : ∃ last,
                (first :: rest)[groupSize 0 (first :: rest) - 1]? = some last :=
              ⟨_, List.getElem?_eq_getElem (by omega)⟩
            have lastOfGroup : (group (first :: rest)).getLast? = some last := by
              rw [group, List.getLast?_take, if_neg (by omega), isLast, Option.some_or]
            have fewer : minus? (index + 1 + groupSize 0 (first :: rest)) 1 =
                some (index + 1 + (groupSize 0 (first :: rest) - 1)) := by
              rw [minus?_of_le (by omega)]
              congr 1
              omega
            have described := describeFrom_of_mem fitsRest
              (List.mem_cons_of_mem operand (List.mem_of_getElem? isLast))
            rw [isEnd, fewer]
            simp only [Option.bind_eq_bind, Option.bind_some,
              getElem?_place source behind, List.drop_one, List.tail_cons, isLast,
              Option.map_some, described, lastOfGroup, Option.getD_some, Option.pure_def]
      · have described := describeFrom_of_mem fitsRest List.mem_cons_self
        rw [described]
        rfl

/-- The first of the arguments is described as such. -/
theorem firstArgument_eq {arguments : List Token} (fits : Fits source arguments) :
    firstArgument source (arguments.map (place source)) =
      some (argumentDescription source arguments) := by
  rw [firstArgument, cutAtCommas_eq, argumentDescription]
  cases cut : commaParts arguments with
  | nil => exact absurd cut (splitTopLevel_ne_nil _ _ _)
  | cons part parts =>
      have isPart : part <:+: arguments := infix_of_mem_commaParts (cut ▸ List.mem_cons_self)
      cases part with
      | nil => rfl
      | cons first rest =>
          have described := describeFrom_of_mem (fits.mono isPart)
            (List.mem_of_getLast? (List.getLast?_cons (a := first) (l := rest)))
          have fewer : minus? (rest.length + 1) 1 = some rest.length :=
            minus?_of_le (Nat.le_add_left _ _)
          simp only [Option.bind_eq_bind, Option.bind_some, List.map_cons, List.head?_cons,
            List.isEmpty_cons, Bool.false_eq_true, if_false, List.getElem?_cons_zero,
            List.length_cons, List.length_map, fewer, Option.getD_some]
          rw [← List.map_cons, List.getElem?_map,
            show (first :: rest)[rest.length]? = (first :: rest).getLast? from
              List.getLast?_eq_getElem?.symm,
            List.getLast?_cons, Option.map_some, Option.bind_some, described, Option.getD_some]

/-- The arguments between the brackets of a group are a slice inside the list. -/
theorem arguments_eq {first : Token} (isRest : tokens.drop index = first :: rest) :
    part? (tokens.map (place source)) (index + 1)
        (max (groupEnd (tokens.map (place source)) index - 1) (index + 1)) =
      some ((group (first :: rest)).tail.dropLast.map (place source)) := by
  obtain ⟨isEnd, fits, _⟩ := groupEnd_place source isRest
  have length := length_of_drop isRest
  have behind := drop_of_drop isRest 1
  have size := groupSize_le 0 (first :: rest)
  rw [List.length_cons] at size
  rw [isEnd, part?_of_le (by omega) (by rw [List.length_map]; omega), ← List.map_drop, behind,
    ← List.map_take]
  congr 2
  have positive := groupSize_pos first rest
  obtain ⟨count, isCount⟩ := Nat.exists_eq_succ_of_ne_zero (Nat.ne_of_gt positive)
  rw [group, isCount, List.take_succ_cons, List.tail_cons, List.drop_one, List.tail_cons,
    List.dropLast_eq_take, List.length_take, List.take_take]
  congr 1
  omega

/-- How a filter is looked at, and where the chain goes on behind its arguments. -/
theorem filterAt_of_bar {bar name : Token} {filter : String} (fits : Fits source tokens)
    (isRest : tokens.drop index = bar :: name :: rest) (isBar : bar.isSign "|" = true)
    (isWord : name.word? = some filter) :
    ∃ stop, tokens.drop stop = afterArguments rest ∧
      filterAt source (tokens.map (place source)) index =
        if filter ∈ defaultFilters then
          some (some (if rest.head?.any (·.isSign "(") then
            argumentDescription source (group rest).tail.dropLast else ""))
        else filterAt source (tokens.map (place source)) stop := by
  have bars := any_isSign_place source isRest 0 "|"
  have next := getElem?_place source isRest 1
  have behind : tokens.drop (index + 2) = rest := drop_of_drop isRest 2
  have called := any_isSign_place source behind 0 "("
  rw [Nat.add_zero, List.getElem?_cons_zero, Option.any_some, isBar] at bars
  rw [List.getElem?_cons_succ, List.getElem?_cons_zero, Option.map_some] at next
  rw [Nat.add_zero, ← List.head?_eq_getElem?] at called
  rw [filterAt, if_pos bars, next, Option.bind_some, word?_place, isWord]
  dsimp only
  rw [called, afterArguments]
  simp only [List.contains_iff_mem]
  cases isCalled : rest.head?.any (·.isSign "(") with
  | false =>
      refine ⟨index + 2, behind, ?_⟩
      simp only [Bool.false_eq_true, if_false]
      rfl
  | true =>
      obtain ⟨first, others, rfl⟩ : ∃ first others, rest = first :: others := by
        cases rest with
        | nil => cases isCalled
        | cons first others => exact ⟨first, others, rfl⟩
      obtain ⟨isEnd, _, afterEnd⟩ := groupEnd_place source behind
      have inner : (group (first :: others)).tail.dropLast <:+: tokens :=
        (List.dropLast_prefix _).isInfix.trans
          ((List.tail_suffix _).isInfix.trans ((List.take_prefix _ _).isInfix.trans
            (behind ▸ (List.drop_suffix _ tokens).isInfix)))
      have described := firstArgument_eq (fits.mono inner)
      have moves : index < groupEnd (tokens.map (place source)) (index + 2) := by
        rw [isEnd]
        omega
      refine ⟨index + 2 + groupSize 0 (first :: others), afterEnd, ?_⟩
      simp only [if_true, arguments_eq behind, Option.bind_eq_bind, Option.bind_some, described,
        Option.pure_def, isBelow?_of_lt moves]
      rw [isEnd]

/-- The chain of filters behind a word is followed to its first default filter. -/
theorem filterAt_eq (fits : Fits source tokens) (isRest : tokens.drop index = rest) :
    filterAt source (tokens.map (place source)) index =
      some (filterDescription? source rest) := by
  have bars := any_isSign_place source isRest 0 "|"
  rw [Nat.add_zero, ← List.head?_eq_getElem?] at bars
  induction rest using filters_induction generalizing index with
  | noBar rest noBar =>
      rw [filterAt, bars, noBar, filterDescription?_of_noBar noBar]
      rfl
  | noName bar rest isBar noName =>
      have next := getElem?_place source isRest 1
      have noWord : (tokens.map (place source))[index + 1]?.bind PlacedToken.word? = none := by
        rw [next, List.getElem?_cons_succ, ← List.head?_eq_getElem?, ← noName]
        cases rest.head? with
        | none => rfl
        | some name => exact word?_place source name
      rw [filterAt, bars, List.head?_cons, Option.any_some, if_pos isBar, noWord,
        filterDescription?_of_noName noName]
      rfl
  | default bar name rest filter isBar isWord isDefault =>
      obtain ⟨_, _, here⟩ := filterAt_of_bar fits isRest isBar isWord
      rw [here, if_pos isDefault, filterDescription?_of_default isBar isWord isDefault]
  | filter bar name rest filter isBar isWord noDefault ih =>
      obtain ⟨stop, behind, here⟩ := filterAt_of_bar fits isRest isBar isWord
      have later := any_isSign_place source behind 0 "|"
      rw [Nat.add_zero, ← List.head?_eq_getElem?] at later
      rw [here, if_neg noDefault, ih behind later,
        filterDescription?_of_filter isBar isWord noDefault]

/-- The fallback behind a word is found by positions. -/
theorem fallbackAfter_eq (fits : Fits source tokens) (isRest : tokens.drop (index + 1) = rest)
    (inside : index + 1 ≤ tokens.length) :
    fallbackAfter source (tokens.map (place source)) index = some (fallback? source rest) := by
  obtain ⟨stop, _, found, behind⟩ := suffixEnd_eq source isRest inside
  have here := getElem?_place source behind 0
  rw [Nat.add_zero] at here
  rw [fallbackAfter, found, Option.bind_eq_bind, Option.bind_some, here, fallback?]
  cases isAfter : afterSuffixes rest with
  | nil =>
      rw [isAfter] at behind
      have filters := filterAt_eq fits behind
      have noFilter : filterDescription? source [] = none := filterDescription?_of_noBar rfl
      simp only [List.getElem?_nil, Option.map_none, Option.any_none, Bool.false_eq_true, if_false,
        filters, noFilter]
  | cons token others =>
      rw [isAfter] at behind
      have operand := operandAt_eq fits (drop_of_drop behind 1)
      have filters := filterAt_eq fits behind
      simp only [List.getElem?_cons_zero, Option.map_some, Option.any_some, isWord_place]
      rw [operand, filters]
      split <;> rfl

end Chains

/-! ## Scans -/

section Scans

variable (source : List Char) (before : List Token) (token : Token) (after : List Token)

theorem previous?_eq :
    previous? ((before.reverse ++ token :: after).map (place source)) before.length =
      some (before.head?.map (place source)) := by
  cases before with
  | nil => rfl
  | cons last before =>
      have here := getElem?_before source (last :: before) token after 0 (by simp)
      have position : minus? (last :: before).length 1 = some ((last :: before).length - 1 - 0) :=
        minus?_of_le (by simp)
      rw [previous?, position]
      dsimp only
      rw [here]
      rfl

/-- Whether a word names a test is told from the two tokens in front of it. -/
theorem isTestName_eq :
    isTestName ((before.reverse ++ token :: after).map (place source)) before.length =
      some (namesTest before) := by
  match before with
  | [] => rfl
  | [last] => simp [isTestName, namesTest]
  | last :: previous :: before =>
      have first := getElem?_before source (last :: previous :: before) token after 0 (by simp)
      have second := getElem?_before source (last :: previous :: before) token after 1 (by simp)
      have one : minus? (last :: previous :: before).length 1 =
          some ((last :: previous :: before).length - 1 - 0) := minus?_of_le (by simp)
      have two : minus? (last :: previous :: before).length 2 =
          some ((last :: previous :: before).length - 1 - 1) := minus?_of_le (by simp)
      have large : (last :: previous :: before).length ≠ 0 ∧
          (last :: previous :: before).length ≠ 1 := by simp
      rw [isTestName, if_neg large.1, if_neg large.2, one, two]
      simp only [Option.bind_eq_bind, Option.bind_some, first, second, List.getElem?_cons_zero,
        List.getElem?_cons_succ, Option.map_some, isWord_place, namesTest]
      cases last.isWord "is" <;> cases last.isWord "not" <;> simp

variable (context : Context) (bound : List String) (conditions : List InlineCondition)

/-- The read that a token is, if it is one. -/
def readAt : List Occurrence :=
  match token.word? with
  | none => []
  | some name =>
    if isRead context bound before name after then
      [⟨name, guardAt source context conditions before.length name after⟩]
    else []

theorem occurrencesFrom_cons : occurrencesFrom source context bound conditions before
      (token :: after) =
    readAt source before token after context bound conditions ++
      occurrencesFrom source context bound conditions (token :: before) after := by
  rw [occurrencesFrom, readAt]
  cases token.word? with
  | none => rfl
  | some name =>
      dsimp only
      split <;> rfl

theorem callsSuper_eq_true_iff {name : String} : callsSuper name after = true ↔
    name = "super" ∧ after.head?.any (·.isSign "(") = true := by
  rw [callsSuper, Bool.and_eq_true, beq_iff_eq]

/-- A call of `super` is no keyword. -/
theorem callsSuper_of_keyword {name : String} (keyword : keywords.contains name = true) :
    callsSuper name after = false := by
  rw [← Bool.not_eq_true, callsSuper_eq_true_iff]
  rintro ⟨rfl, _⟩
  exact absurd keyword (by decide)

/-- What has to be checked of a word that is read, in the order in which it is checked. -/
theorem isRead_eq_true_iff {name : String} : isRead context bound before name after = true ↔
    ¬ keywords.contains name = true ∧
      ¬ (name = "super" ∧ after.head?.any (·.isSign "(") = true) ∧
      ¬ (context = .filter ∧ before.length = 0) ∧
      before.head?.any (fun token => token.isSign "." || token.isSign "|") = false ∧
      namesTest before = false ∧
      ¬ (after.head?.any (·.isSign "=") = true ∨ builtins.contains name = true ∨
        bound.contains name = true) := by
  have leading : (context == .filter && before.isEmpty) = true ↔
      context = .filter ∧ before.length = 0 := by
    rw [Bool.and_eq_true, beq_iff_eq, List.isEmpty_iff, List.length_eq_zero_iff]
  rw [isRead, Bool.not_eq_true', ← callsSuper_eq_true_iff, ← leading]
  simp only [Bool.or_eq_false_iff, Bool.not_eq_true, not_or, and_assoc]

/-- The guard of a read is found by positions. -/
theorem guard_place {name : String} {mask : List Bool}
    (fallback : fallbackAfter source ((before.reverse ++ token :: after).map (place source))
      before.length = some (fallback? source after))
    (marked : mask[before.length]? = some (conditions.any (·.guards before.length name))) :
    (do
      match ← fallbackAfter source ((before.reverse ++ token :: after).map (place source))
          before.length with
      | some description => return (⟨[⟨name, .fallback description⟩], false⟩ : Scan)
      | none =>
        if context = .test then return ⟨[⟨name, .conditional⟩], false⟩
        else
          let guarded ← mask[before.length]?
          return ⟨[⟨name, if guarded then .conditional else .bare⟩], false⟩) =
      some ⟨[⟨name, guardAt source context conditions before.length name after⟩], false⟩ := by
  rw [fallback, marked, guardAt]
  cases fallback? source after with
  | some description => rfl
  | none =>
      by_cases inTest : context = .test
      · subst inTest
        rfl
      · have other : (context == Context.test) = false := beq_eq_false_iff_ne.mpr inTest
        simp only [Option.bind_eq_bind, Option.bind_some, if_neg inTest, other, Bool.false_or]
        rfl

/-- What a token is found to be by positions is what it is in the expression. -/
theorem scanAt_eq {mask : List Bool} (fits : Fits source (before.reverse ++ token :: after))
    (marks : Marks (before.reverse ++ token :: after)
      (fun index name => conditions.any (·.guards index name)) mask) :
    scanAt source ((before.reverse ++ token :: after).map (place source)) mask context bound
        before.length (place source token) =
      some ⟨readAt source before token after context bound conditions,
        token.word?.any (callsSuper · after)⟩ := by
  rw [scanAt, word?_place, readAt]
  cases isWord : token.word? with
  | none => rfl
  | some name =>
      have isRest : (before.reverse ++ token :: after).drop (before.length + 1) = after := by
        rw [List.append_cons, List.drop_left' (by simp)]
      have next : ∀ sign,
          ((before.reverse ++ token :: after).map (place source))[before.length + 1]?.any
            (·.isSign sign) = after.head?.any (·.isSign sign) := by
        intro sign
        have here := any_isSign_place source isRest 0 sign
        rwa [Nat.add_zero, ← List.head?_eq_getElem?] at here
      have member : (before.head?.map (place source)).any
          (fun token => token.isSign "." || token.isSign "|") =
            before.head?.any (fun token => token.isSign "." || token.isSign "|") := by
        cases before.head? <;> simp
      have fallback := fallbackAfter_eq fits isRest (by simp)
      have marked : mask[before.length]? =
          some (conditions.any (·.guards before.length name)) := by
        apply marks.marked
        simpa using isWord
      simp only [previous?_eq, isTestName_eq, next, member, Option.bind_eq_bind, Option.bind_some,
        Option.any_some]
      by_cases reads : isRead context bound before name after = true
      · obtain ⟨noKeyword, noCall, noFilter, noMember, noTest, free⟩ :=
          (isRead_eq_true_iff before after context bound).mp reads
        have silent : callsSuper name after = false := by
          rwa [← Bool.not_eq_true, callsSuper_eq_true_iff]
        rw [if_neg noKeyword, if_neg noCall, if_neg noFilter, noMember, noTest, reads, silent]
        simp only [Bool.false_eq_true, if_false, if_true]
        rw [if_neg free]
        exact guard_place source before token after context conditions fallback marked
      · rw [if_neg reads]
        rw [isRead_eq_true_iff] at reads
        split
        · rw [callsSuper_of_keyword after ‹_›]
          rfl
        · split
          · rw [(callsSuper_eq_true_iff after).mpr ‹_›]
            rfl
          · have silent : callsSuper name after = false := by
              rwa [← Bool.not_eq_true, callsSuper_eq_true_iff]
            rw [silent]
            split
            · rfl
            · split
              · rfl
              · cases isTest : namesTest before with
                | true => rfl
                | false =>
                    simp only [Bool.false_eq_true, if_false]
                    split
                    · rfl
                    · exact absurd ⟨‹_›, ‹_›, ‹_›, Bool.not_eq_true _ ▸ ‹_›, isTest, ‹_›⟩ reads

end Scans

/-- What is found in the tokens behind those of `before`. -/
theorem scanFrom_eq (context : Context) (bound : List String) {source : List Char}
    {before rest : List Token} {mask : List Bool} {conditions : List InlineCondition}
    (fits : Fits source (before.reverse ++ rest))
    (marks : Marks (before.reverse ++ rest)
      (fun index name => conditions.any (·.guards index name)) mask) :
    scanFrom source ((before.reverse ++ rest).map (place source)) mask context bound before.length
        (rest.map (place source)) =
      some ⟨occurrencesFrom source context bound conditions before rest, anySuperCall rest⟩ := by
  induction rest generalizing before with
  | nil => rfl
  | cons token rest ih =>
      have whole : before.reverse ++ token :: rest = (token :: before).reverse ++ rest := by
        rw [List.reverse_cons, List.append_assoc, List.singleton_append]
      have later := ih (whole ▸ fits) (whole ▸ marks)
      rw [← whole, List.length_cons] at later
      rw [List.map_cons, scanFrom, scanAt_eq source before token rest context bound conditions fits
        marks, occurrencesFrom_cons, anySuperCall]
      simp only [Option.bind_eq_bind, Option.bind_some, later, Option.pure_def]

/-- What is found in a part of an expression by positions is what the part reads. -/
theorem scan_eq {source : List Char} {tokens : List Token} (fits : Fits source tokens)
    (context : Context) (bound : List String) :
    scan source (tokens.map (place source)) context bound =
      some ⟨Expression.occurrences ⟨source, tokens⟩ context bound,
        Expression.callsSuper ⟨source, tokens⟩⟩ := by
  obtain ⟨mask, isMask, marks⟩ := markConditions_eq source tokens
  have fits' : Fits source ([].reverse ++ tokens) := fits
  have found := scanFrom_eq context bound fits' marks
  rw [scan, isMask]
  exact found

end Lineage.Bytewise
