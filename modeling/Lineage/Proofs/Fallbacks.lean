import Lineage.Proofs.Excerpts

/-!
# Fallbacks inside longer expressions

The fallback of a read is looked for in the tokens behind its name: suffixes, groups, filters.  In a
list whose brackets are closed (`Balanced`) no search runs over the end of a group, and if the last
token does not ask for another one (`Token.goesOn`) no search runs over the end of the list into the
word `if` or `else` behind it.  So a read keeps its fallback when its expression stands inside a
longer one (`fallback?_excerpt`).
-/

namespace Lineage.Template

open Lineage.Text

/-! ## Closed brackets -/

/-- A token is one sign only. -/
theorem Token.isSign_eq_false {token : Token} {sign other : String}
    (isSign : token.isSign sign = true) (different : sign ≠ other) :
    token.isSign other = false := by
  rw [Token.isSign, beq_iff_eq] at isSign
  simp [Token.isSign, isSign, different]

/-- A bracket that opens does not close. -/
theorem Token.closes?_of_opens? {token : Token} (opens : token.opens?.isSome = true) :
    token.closes? = none := by
  obtain ⟨bracket, found⟩ := Option.isSome_iff_exists.mp opens
  have isOpening : token.lexeme = .operator bracket.opening := by
    simpa [isSign] using List.find?_some found
  rw [closes?, List.find?_eq_none]
  intro other _
  rw [isSign, isOpening]
  cases bracket <;> cases other <;> decide

theorem Token.depthAfter_of_opens? {token : Token} (opens : token.opens?.isSome = true)
    (depth : Nat) : token.depthAfter depth = depth + 1 := by
  rw [depthAfter, if_pos opens]

theorem Token.depthAfter_of_closes? {token : Token} (closes : token.closes?.isSome = true)
    (depth : Nat) : token.depthAfter depth = depth - 1 := by
  have noOpening : token.opens?.isSome = false := by
    rw [← Bool.not_eq_true]
    intro opens
    rw [Token.closes?_of_opens? opens] at closes
    cases closes
  rw [depthAfter, noOpening, closes]
  rfl

theorem Token.depthAfter_of_other {token : Token} (noOpening : ¬ token.opens?.isSome = true)
    (noClosing : ¬ token.closes?.isSome = true) (depth : Nat) : token.depthAfter depth = depth := by
  rw [depthAfter, if_neg noOpening, if_neg noClosing]

/-- The list closes the `depth` brackets that are open in front of it, and those that it opens. -/
def Balanced (depth : Nat) : List Token → Prop
  | [] => depth = 0
  | token :: rest =>
    (token.closes?.isSome = true → 0 < depth) ∧ Balanced (token.depthAfter depth) rest

/-- The number of brackets that are open behind the list, if `depth` are open in front of it. -/
def depthBehind (depth : Nat) (tokens : List Token) : Nat :=
  tokens.foldl Token.depthAfter depth

theorem balanced_of_pairBrackets {pending : List Bracket} {tokens : List Token}
    (pairs : pairBrackets pending tokens = .ok ()) : Balanced pending.length tokens := by
  induction tokens generalizing pending with
  | nil =>
      cases pending with
      | nil => rfl
      | cons bracket pending => cases pairs
  | cons token tokens ih =>
      rw [pairBrackets] at pairs
      split at pairs
      · rename_i bracket _ opens
        have isOpening : token.opens?.isSome = true := by rw [opens]; rfl
        rw [Balanced, Token.closes?_of_opens? isOpening, Token.depthAfter_of_opens? isOpening]
        exact ⟨(nomatch ·), ih pairs⟩
      · rename_i bracket noOpening closes
        split at pairs
        · rename_i innermost
          obtain ⟨outer, rfl⟩ := List.head?_eq_some_iff.mp innermost
          refine ⟨fun _ => Nat.succ_pos _, ?_⟩
          rw [Token.depthAfter, noOpening, closes]
          exact ih pairs
        · cases pairs
      · rename_i noOpening noClosing
        rw [Balanced, Token.depthAfter, noOpening, noClosing]
        exact ⟨(nomatch ·), ih pairs⟩

theorem Balanced.append_right {depth : Nat} {first second : List Token}
    (balanced : Balanced depth (first ++ second)) : Balanced (depthBehind depth first) second := by
  induction first generalizing depth with
  | nil => exact balanced
  | cons token first ih => exact ih balanced.2

/-- Behind a token a bracket that was open in front of it is still open, unless the token closes
it. -/
theorem Token.depthAfter_add {token : Token} {depth outer : Nat}
    (closes : token.closes?.isSome = true → 0 < depth) :
    token.depthAfter (depth + outer) = token.depthAfter depth + outer := by
  unfold depthAfter
  split
  · omega
  · split
    · rename_i isClosing
      have positive := closes isClosing
      omega
    · rfl

/-! ## The walk over suffixes -/

theorem afterGroup_suffix (tokens : List Token) : afterGroup tokens <:+ tokens :=
  List.drop_suffix _ _

section Suffixes

variable {first name : Token} {rest : List Token}

/-- The suffixes end at a token that begins none. -/
theorem afterSuffixes_of_other (noPoint : first.isSign "." = false)
    (noBracket : (first.isSign "(" || first.isSign "[") = false) :
    afterSuffixes (first :: rest) = first :: rest := by
  rw [afterSuffixes.eq_def]
  simp [noPoint, noBracket]

/-- A point without a name behind it begins no suffix. -/
theorem afterSuffixes_of_noName (isPoint : first.isSign "." = true)
    (noName : rest.head?.any (·.word?.isSome) = false) :
    afterSuffixes (first :: rest) = first :: rest := by
  rw [afterSuffixes.eq_def]
  cases rest with
  | nil => simp [isPoint]
  | cons name rest =>
      rw [List.head?_cons, Option.any_some] at noName
      simp [isPoint, noName]

theorem afterSuffixes_of_name (isPoint : first.isSign "." = true)
    (isWord : name.word?.isSome = true) :
    afterSuffixes (first :: name :: rest) = afterSuffixes rest := by
  rw [afterSuffixes.eq_def]
  simp [isPoint, isWord]

theorem afterSuffixes_of_bracket (noPoint : first.isSign "." = false)
    (isBracket : (first.isSign "(" || first.isSign "[") = true) :
    afterSuffixes (first :: rest) = afterSuffixes (afterGroup (first :: rest)) := by
  rw [afterSuffixes.eq_def]
  simp [noPoint, isBracket]

end Suffixes

/-- Induction along the walk over suffixes: an attribute or a group is passed, and the walk ends at
any other token, at a point without a name, or with the list. -/
@[elab_as_elim]
theorem suffixes_induction {motive : List Token → Prop} (nil : motive [])
    (other : ∀ first rest, first.isSign "." = false →
      (first.isSign "(" || first.isSign "[") = false → motive (first :: rest))
    (noName : ∀ point rest, point.isSign "." = true → rest.head?.any (·.word?.isSome) = false →
      motive (point :: rest))
    (name : ∀ point name rest, point.isSign "." = true → name.word?.isSome = true →
      motive rest → motive (point :: name :: rest))
    (bracket : ∀ first rest, first.isSign "." = false →
      (first.isSign "(" || first.isSign "[") = true → motive (afterGroup (first :: rest)) →
      motive (first :: rest))
    (tokens : List Token) : motive tokens := by
  induction tokens using afterSuffixes.induct with
  | case1 => exact nil
  | case2 point isPoint => exact noName point [] isPoint rfl
  | case3 point isPoint name' rest isWord ih => exact name point name' rest isPoint isWord ih
  | case4 point isPoint name' rest noWord =>
      exact noName point (name' :: rest) isPoint (by simpa using noWord)
  | case5 first rest noPoint isBracket ih =>
      exact bracket first rest (by simpa using noPoint) isBracket ih
  | case6 first rest noPoint noBracket =>
      exact other first rest (by simpa using noPoint) (by simpa using noBracket)

theorem afterSuffixes_suffix (tokens : List Token) : afterSuffixes tokens <:+ tokens := by
  induction tokens using suffixes_induction with
  | nil => exact ⟨[], by rw [List.nil_append, afterSuffixes]⟩
  | other first rest noPoint noBracket =>
      exact ⟨[], afterSuffixes_of_other noPoint noBracket⟩
  | noName point rest isPoint noName =>
      exact ⟨[], afterSuffixes_of_noName isPoint noName⟩
  | name point name rest isPoint isWord ih =>
      rw [afterSuffixes_of_name isPoint isWord]
      exact ih.trans (List.suffix_append [point, name] rest)
  | bracket first rest noPoint isBracket ih =>
      rw [afterSuffixes_of_bracket noPoint isBracket]
      exact ih.trans (afterGroup_suffix _)

/-! ## The walk over filters -/

/-- The tokens behind the arguments of a filter, if the list begins with arguments. -/
def afterArguments (tokens : List Token) : List Token :=
  if tokens.head?.any (·.isSign "(") then afterGroup tokens else tokens

theorem afterArguments_suffix (tokens : List Token) : afterArguments tokens <:+ tokens := by
  unfold afterArguments
  split
  · exact afterGroup_suffix tokens
  · exact List.suffix_rfl

section Filters

variable {source : List Char} {bar name : Token} {rest : List Token} {filter : String}

/-- A list that does not begin with a bar begins with no filter. -/
theorem filterDescription?_of_noBar {tokens : List Token}
    (noBar : tokens.head?.any (·.isSign "|") = false) :
    filterDescription? source tokens = none := by
  rw [filterDescription?.eq_def]
  cases tokens with
  | nil => rfl
  | cons bar tokens =>
      cases tokens with
      | nil => rfl
      | cons name rest =>
          have isFalse : bar.isSign "|" = false := by simpa using noBar
          simp [isFalse]

/-- Without a name behind its first token a list begins with no filter. -/
theorem filterDescription?_of_noName (noName : rest.head?.bind Token.word? = none) :
    filterDescription? source (bar :: rest) = none := by
  rw [filterDescription?.eq_def]
  cases rest with
  | nil => rfl
  | cons name rest =>
      rw [List.head?_cons, Option.bind_some] at noName
      simp [noName]

theorem filterDescription?_of_default (isBar : bar.isSign "|" = true)
    (isWord : name.word? = some filter) (isDefault : filter ∈ defaultFilters) :
    filterDescription? source (bar :: name :: rest) =
      some (if rest.head?.any (·.isSign "(") then
        argumentDescription source (group rest).tail.dropLast else "") := by
  rw [filterDescription?.eq_def]
  simp [isBar, isWord, isDefault]

theorem filterDescription?_of_filter (isBar : bar.isSign "|" = true)
    (isWord : name.word? = some filter) (noDefault : filter ∉ defaultFilters) :
    filterDescription? source (bar :: name :: rest) =
      filterDescription? source (afterArguments rest) := by
  rw [filterDescription?.eq_def]
  simp [isBar, isWord, noDefault, afterArguments]

end Filters

/-- Induction along the walk over filters: a filter that is no default filter is passed with its
arguments, and the walk ends at a default filter, at a bar without a name, or where no bar stands. -/
@[elab_as_elim]
theorem filters_induction {motive : List Token → Prop}
    (noBar : ∀ tokens, tokens.head?.any (·.isSign "|") = false → motive tokens)
    (noName : ∀ bar rest, bar.isSign "|" = true → rest.head?.bind Token.word? = none →
      motive (bar :: rest))
    (default : ∀ bar name rest filter, bar.isSign "|" = true → name.word? = some filter →
      filter ∈ defaultFilters → motive (bar :: name :: rest))
    (filter : ∀ bar name rest filter, bar.isSign "|" = true → name.word? = some filter →
      filter ∉ defaultFilters → motive (afterArguments rest) → motive (bar :: name :: rest))
    (tokens : List Token) : motive tokens := by
  induction length : tokens.length using Nat.strongRecOn generalizing tokens with
  | ind size ih =>
      subst length
      cases isBar : tokens.head?.any (·.isSign "|") with
      | false => exact noBar tokens isBar
      | true =>
          obtain ⟨bar, rest, rfl⟩ : ∃ bar rest, tokens = bar :: rest := by
            cases tokens with
            | nil => cases isBar
            | cons bar rest => exact ⟨bar, rest, rfl⟩
          cases isWord : rest.head?.bind Token.word? with
          | none => exact noName bar rest isBar isWord
          | some word =>
              obtain ⟨name, isName, isWord⟩ := Option.bind_eq_some_iff.mp isWord
              obtain ⟨rest, rfl⟩ := List.head?_eq_some_iff.mp isName
              by_cases isDefault : word ∈ defaultFilters
              · exact default bar name rest word isBar isWord isDefault
              · have shorter := (afterArguments_suffix rest).length_le
                refine filter bar name rest word isBar isWord isDefault (ih _ ?_ _ rfl)
                simp only [List.length_cons]
                omega

/-! ## What stands behind an excerpt -/

/-- The list begins with the word `if` or `else`, if it begins at all. -/
def EndsOperand (tokens : List Token) : Prop :=
  ∀ token ∈ tokens.head?, token.isWord "if" = true ∨ token.isWord "else" = true

/-- The token asks for another one behind it. -/
def Token.goesOn (token : Token) : Bool :=
  token.isSign "." || token.isSign "|" || token.isWord "or"

/-- A part of an expression up to its end, which closes all its brackets and asks for nothing more
behind it. -/
structure IsRest (source : List Char) (tokens : List Token) : Prop where
  inside : ∀ token ∈ tokens, token.stop ≤ source.length
  balanced : ∃ depth, Balanced depth tokens
  complete : ∀ token ∈ tokens.getLast?, token.goesOn = false

theorem IsRest.suffix {source : List Char} {tokens rest : List Token}
    (isRest : IsRest source tokens) (isSuffix : rest <:+ tokens) : IsRest source rest := by
  obtain ⟨first, rfl⟩ := isSuffix
  constructor
  · intro token member
    exact isRest.inside token (List.mem_append_right first member)
  · obtain ⟨depth, balanced⟩ := isRest.balanced
    exact ⟨_, balanced.append_right⟩
  · intro token isLast
    apply isRest.complete
    rw [List.getLast?_append, Option.mem_def.mp isLast]
    rfl

theorem EndsOperand.isSign {token : Token} {rest : List Token}
    (ends : EndsOperand (token :: rest)) (sign : String) : token.isSign sign = false := by
  rcases ends token rfl with isWord | isWord
  all_goals
    rw [Token.isWord, beq_iff_eq] at isWord
    simp [Token.isSign, isWord]

theorem EndsOperand.isWord {token : Token} {rest : List Token}
    (ends : EndsOperand (token :: rest)) {word : String} (notIf : word ≠ "if")
    (notElse : word ≠ "else") : token.isWord word = false := by
  rcases ends token rfl with isIf | isElse
  · rw [Token.isWord, beq_iff_eq] at isIf
    simp [Token.isWord, isIf, notIf.symm]
  · rw [Token.isWord, beq_iff_eq] at isElse
    simp [Token.isWord, isElse, notElse.symm]

/-- What stands behind an excerpt does not begin with an operator. -/
theorem EndsOperand.any_isSign {extra : List Token} (ends : EndsOperand extra) (distance : Nat)
    (tokens : List Token) (sign : String) :
    (tokens.map (Token.later distance) ++ extra).head?.any (·.isSign sign) =
      tokens.head?.any (·.isSign sign) := by
  cases tokens with
  | nil =>
      cases extra with
      | nil => rfl
      | cons token rest => simpa using ends.isSign sign
  | cons token rest => rfl

theorem EndsOperand.any_isSign_or {extra : List Token} (ends : EndsOperand extra) (distance : Nat)
    (tokens : List Token) (sign other : String) :
    (tokens.map (Token.later distance) ++ extra).head?.any
        (fun token => token.isSign sign || token.isSign other) =
      tokens.head?.any (fun token => token.isSign sign || token.isSign other) := by
  cases tokens with
  | nil =>
      cases extra with
      | nil => rfl
      | cons token rest => simp [ends.isSign]
  | cons token rest => rfl

/-! ## Groups -/

section Excerpt

variable {distance : Nat} {extra : List Token}

theorem groupSize_le (depth : Nat) (tokens : List Token) :
    groupSize depth tokens ≤ tokens.length := by
  induction tokens generalizing depth with
  | nil => exact Nat.le_refl 0
  | cons token tokens ih =>
      have further := ih (token.depthAfter depth)
      rw [groupSize, List.length_cons]
      split <;> omega

/-- A group goes on behind a token that does not close it. -/
theorem Token.depthAfter_pos {token : Token} {depth : Nat} (inside : 0 < depth)
    (goesOn : ¬ (token.closes?.isSome && token.depthAfter depth == 0) = true) :
    0 < token.depthAfter depth := by
  rw [Nat.pos_iff_ne_zero]
  intro ended
  have closes : token.closes?.isSome = true := by
    rw [← Bool.not_eq_false]
    intro noClosing
    rw [Token.depthAfter, noClosing] at ended
    split at ended
    · omega
    · simp only [Bool.false_eq_true, if_false] at ended
      omega
  exact goesOn (by simp [closes, ended])

/-- A group ends in the list if the bracket that opens it is closed in the list. -/
theorem groupSize_excerpt {depth outer : Nat} {tokens : List Token}
    (balanced : Balanced (depth + outer) tokens) (inside : 0 < depth) :
    groupSize depth (tokens.map (Token.later distance) ++ extra) = groupSize depth tokens := by
  induction tokens generalizing depth with
  | nil =>
      rw [Balanced] at balanced
      omega
  | cons token tokens ih =>
      rw [List.map_cons, List.cons_append, groupSize, groupSize, Token.closes?_later,
        Token.depthAfter_later]
      split
      · rfl
      · rename_i goesOn
        rw [Balanced, Token.depthAfter_add fun _ => inside] at balanced
        rw [ih balanced.2 (Token.depthAfter_pos inside goesOn)]

section Group

variable {depth : Nat} {first : Token} {rest : List Token}
  (balanced : Balanced depth (first :: rest)) (opens : first.opens?.isSome = true)
include balanced opens

theorem groupSize_excerpt_of_opens? :
    groupSize 0 ((first :: rest).map (Token.later distance) ++ extra) =
      groupSize 0 (first :: rest) := by
  rw [Balanced, Token.depthAfter_of_opens? opens, Nat.add_comm] at balanced
  rw [List.map_cons, List.cons_append, groupSize, groupSize, Token.closes?_later,
    Token.depthAfter_later, Token.closes?_of_opens? opens, Token.depthAfter_of_opens? opens]
  simp only [Option.isSome_none, Bool.false_and, Bool.false_eq_true, if_false]
  rw [groupSize_excerpt balanced.2 (Nat.succ_pos 0)]

theorem group_excerpt :
    group ((first :: rest).map (Token.later distance) ++ extra) =
      (group (first :: rest)).map (Token.later distance) := by
  have size := groupSize_le 0 (first :: rest)
  rw [group, group, groupSize_excerpt_of_opens? balanced opens, List.take_append_of_le_length,
    List.map_take]
  rwa [List.length_map]

theorem afterGroup_excerpt :
    afterGroup ((first :: rest).map (Token.later distance) ++ extra) =
      (afterGroup (first :: rest)).map (Token.later distance) ++ extra := by
  have size := groupSize_le 0 (first :: rest)
  rw [afterGroup, afterGroup, groupSize_excerpt_of_opens? balanced opens,
    List.drop_append_of_le_length, List.map_drop]
  rwa [List.length_map]

end Group

/-- The bracket that a round or square sign opens. -/
theorem Token.opens?_of_isSign {token : Token}
    (isSign : (token.isSign "(" || token.isSign "[") = true) : token.opens?.isSome = true := by
  rw [opens?, List.find?_isSome]
  rcases Bool.or_eq_true_iff.mp isSign with round | square
  · exact ⟨.round, by decide, round⟩
  · exact ⟨.square, by decide, square⟩

theorem exists_of_head?_isSign {tokens : List Token}
    (isRound : tokens.head?.any (·.isSign "(") = true) :
    ∃ first rest, tokens = first :: rest ∧ first.opens?.isSome = true := by
  cases tokens with
  | nil => cases isRound
  | cons first rest =>
      have isSign : first.isSign "(" = true := by simpa using isRound
      exact ⟨first, rest, rfl, Token.opens?_of_isSign (by rw [isSign, Bool.true_or])⟩

/-- The suffixes of an operand end in the list. -/
theorem afterSuffixes_excerpt {source : List Char} {tokens : List Token} (ends : EndsOperand extra)
    (isRest : IsRest source tokens) :
    afterSuffixes (tokens.map (Token.later distance) ++ extra) =
      (afterSuffixes tokens).map (Token.later distance) ++ extra := by
  induction tokens using suffixes_induction with
  | nil =>
      rw [afterSuffixes, List.map_nil, List.nil_append]
      cases extra with
      | nil => rw [afterSuffixes]
      | cons token rest =>
          exact afterSuffixes_of_other (ends.isSign _) (by rw [ends.isSign, ends.isSign]; rfl)
  | other first rest noPoint noBracket =>
      rw [afterSuffixes_of_other noPoint noBracket]
      exact afterSuffixes_of_other noPoint noBracket
  | noName point rest isPoint noName =>
      rw [afterSuffixes_of_noName isPoint noName]
      cases rest with
      | nil =>
          have complete := isRest.complete point rfl
          rw [Token.goesOn, isPoint] at complete
          cases complete
      | cons name rest => exact afterSuffixes_of_noName isPoint noName
  | name point name rest isPoint isWord ih =>
      rw [afterSuffixes_of_name isPoint isWord,
        ← ih (isRest.suffix (List.suffix_append [point, name] rest))]
      exact afterSuffixes_of_name isPoint isWord
  | bracket first rest noPoint isBracket ih =>
      obtain ⟨depth, balanced⟩ := isRest.balanced
      rw [afterSuffixes_of_bracket noPoint isBracket, ← ih (isRest.suffix (afterGroup_suffix _)),
        ← afterGroup_excerpt balanced (Token.opens?_of_isSign isBracket)]
      exact afterSuffixes_of_bracket noPoint isBracket

end Excerpt

/-! ## Descriptions -/

section Descriptions

variable {before source behind : List Char}

/-- A part of an expression is described as it is in the longer expression. -/
theorem describe_excerpt (first : Token) {stop : Nat} (inside : stop ≤ source.length) :
    describe (before ++ source ++ behind) (first.later before.length) (stop + before.length) =
      describe source first stop := by
  have slice : describe.slice (before ++ source ++ behind) (first.later before.length)
      (stop + before.length) = describe.slice source first stop := by
    rw [describe.slice, describe.slice, Token.start_later, Nat.add_sub_add_right,
      Nat.add_comm first.start, ← List.drop_drop, List.append_assoc, List.drop_left]
    by_cases starts : first.start ≤ stop
    · rw [List.drop_append_of_le_length (by omega), List.take_append_of_le_length]
      rw [List.length_drop]
      omega
    · rw [Nat.sub_eq_zero_of_le (by omega), List.take_zero, List.take_zero]
  rw [describe, describe, slice, Token.lexeme_later, Token.stop_later]
  simp only [Nat.add_right_cancel_iff]

theorem splitTopLevel_later (separates : Token → Bool)
    (kept : ∀ distance token, separates (Token.later distance token) = separates token)
    (distance depth : Nat) (tokens : List Token) :
    splitTopLevel separates depth (tokens.map (Token.later distance)) =
      (splitTopLevel separates depth tokens).map (·.map (Token.later distance)) := by
  induction tokens generalizing depth with
  | nil => rfl
  | cons token tokens ih =>
      rw [List.map_cons, splitTopLevel, splitTopLevel, kept, Token.depthAfter_later, ih, ih]
      split
      · rfl
      · cases splitTopLevel separates (token.depthAfter depth) tokens <;> rfl

theorem subset_of_mem_splitTopLevel {separates : Token → Bool} (depth : Nat)
    (tokens : List Token) : ∀ part ∈ splitTopLevel separates depth tokens, part ⊆ tokens := by
  induction tokens generalizing depth with
  | nil => simp [splitTopLevel]
  | cons token tokens ih =>
      intro part member
      rw [splitTopLevel] at member
      split at member
      · rcases List.mem_cons.mp member with rfl | later
        · exact List.nil_subset _
        · exact List.subset_cons_of_subset _ (ih _ part later)
      · have parts := ih (token.depthAfter depth)
        split at member
        · rw [List.mem_singleton.mp member]
          exact List.cons_subset_cons _ (List.nil_subset _)
        · rename_i first others found
          rw [found] at parts
          rcases List.mem_cons.mp member with rfl | later
          · exact List.cons_subset_cons _ (parts first List.mem_cons_self)
          · exact List.subset_cons_of_subset _ (parts part (List.mem_cons_of_mem _ later))

theorem getLast?_getD_later (distance : Nat) (tokens : List Token) (alone : Token) :
    (tokens.map (Token.later distance)).getLast?.getD (alone.later distance) =
      (tokens.getLast?.getD alone).later distance := by
  rw [List.getLast?_map, Option.getD_map]

theorem getLast?_getD_mem {tokens : List Token} {alone : Token} (member : alone ∈ tokens) :
    tokens.getLast?.getD alone ∈ tokens := by
  cases found : tokens.getLast? with
  | none => exact member
  | some last => exact List.mem_of_getLast? found

theorem argumentDescription_excerpt {arguments : List Token}
    (inside : ∀ token ∈ arguments, token.stop ≤ source.length) :
    argumentDescription (before ++ source ++ behind)
        (arguments.map (Token.later before.length)) =
      argumentDescription source arguments := by
  have parts : commaParts (arguments.map (Token.later before.length)) =
      (commaParts arguments).map (·.map (Token.later before.length)) :=
    splitTopLevel_later _ (fun _ _ => rfl) _ _ _
  have subset : ∀ part ∈ commaParts arguments, part ⊆ arguments :=
    subset_of_mem_splitTopLevel 0 arguments
  rw [argumentDescription, argumentDescription, parts, List.head?_map]
  cases head : (commaParts arguments).head? with
  | none => rfl
  | some part =>
      rw [Option.map_some, Option.getD_some, Option.getD_some]
      cases part with
      | nil => rfl
      | cons first rest =>
          have member : first ∈ first :: rest := List.mem_cons_self
          have last := subset _ (List.mem_of_mem_head? head) (getLast?_getD_mem member)
          simp only [List.map_cons]
          rw [← List.map_cons, getLast?_getD_later, Token.stop_later,
            describe_excerpt first (inside _ last)]

/-! ## Searches for a fallback -/

variable {extra : List Token} (ends : EndsOperand extra)
include ends

theorem operandDescription?_excerpt {operand : Token} {rest : List Token}
    (isRest : IsRest source (operand :: rest)) :
    operandDescription? (before ++ source ++ behind)
        ((operand :: rest).map (Token.later before.length) ++ extra) =
      operandDescription? source (operand :: rest) := by
  rw [List.map_cons, List.cons_append, operandDescription?, operandDescription?,
    beginsWithCall, ends.any_isSign_or, ← beginsWithCall]
  cases isCall : beginsWithCall rest with
  | false =>
      simp only [Bool.false_eq_true, if_false]
      rw [Token.stop_later, describe_excerpt _ (isRest.inside operand List.mem_cons_self)]
  | true =>
      obtain ⟨first, more, rfl⟩ : ∃ first more, rest = first :: more := by
        cases rest with
        | nil => cases isCall
        | cons first more => exact ⟨first, more, rfl⟩
      obtain ⟨depth, balanced⟩ := (isRest.suffix (List.suffix_cons operand _)).balanced
      have opens : first.opens?.isSome = true := Token.opens?_of_isSign isCall
      have member : (group (first :: more)).getLast?.getD operand ∈ operand :: first :: more := by
        cases found : (group (first :: more)).getLast? with
        | none => exact List.mem_cons_self
        | some last =>
            exact List.mem_cons_of_mem _ (List.mem_of_mem_take (List.mem_of_getLast? found))
      simp only [if_true]
      rw [group_excerpt balanced opens, getLast?_getD_later, Token.stop_later,
        describe_excerpt _ (isRest.inside _ member)]

theorem afterArguments_excerpt {tokens : List Token} (isRest : IsRest source tokens)
    (distance : Nat) :
    afterArguments (tokens.map (Token.later distance) ++ extra) =
      (afterArguments tokens).map (Token.later distance) ++ extra := by
  rw [afterArguments, afterArguments, ends.any_isSign]
  split
  · rename_i called
    obtain ⟨first, more, rfl, opens⟩ := exists_of_head?_isSign called
    obtain ⟨depth, balanced⟩ := isRest.balanced
    exact afterGroup_excerpt balanced opens
  · rfl

theorem filterDescription?_excerpt {tokens : List Token} (isRest : IsRest source tokens) :
    filterDescription? (before ++ source ++ behind)
        (tokens.map (Token.later before.length) ++ extra) =
      filterDescription? source tokens := by
  induction tokens using filters_induction with
  | noBar tokens noBar =>
      rw [filterDescription?_of_noBar noBar, filterDescription?_of_noBar]
      rwa [ends.any_isSign]
  | noName bar rest isBar noName =>
      rw [filterDescription?_of_noName noName]
      cases rest with
      | nil =>
          have complete := isRest.complete bar rfl
          simp [Token.goesOn, isBar] at complete
      | cons name rest => exact filterDescription?_of_noName noName
  | default bar name rest filter isBar isWord isDefault =>
      have there : filterDescription? (before ++ source ++ behind)
          (bar.later before.length :: name.later before.length ::
            (rest.map (Token.later before.length) ++ extra)) = _ :=
        filterDescription?_of_default isBar isWord isDefault
      rw [filterDescription?_of_default isBar isWord isDefault, List.map_cons, List.map_cons,
        List.cons_append, List.cons_append, there, ends.any_isSign before.length rest]
      have isCall := isRest.suffix (List.suffix_append [bar, name] rest)
      split
      · rename_i called
        obtain ⟨first, more, rfl, opens⟩ := exists_of_head?_isSign called
        obtain ⟨depth, balanced⟩ := isCall.balanced
        rw [group_excerpt balanced opens, ← List.map_tail, ← List.map_dropLast,
          argumentDescription_excerpt]
        intro token member
        apply isCall.inside
        exact List.mem_of_mem_take (List.mem_of_mem_tail (List.dropLast_subset _ member))
      · rfl
  | filter bar name rest filter isBar isWord noDefault ih =>
      have isCall := isRest.suffix (List.suffix_append [bar, name] rest)
      rw [filterDescription?_of_filter isBar isWord noDefault,
        ← ih (isCall.suffix (afterArguments_suffix rest)), ← afterArguments_excerpt ends isCall]
      exact filterDescription?_of_filter isBar isWord noDefault

/-- A read keeps its fallback when its expression stands inside a longer one. -/
theorem fallback?_excerpt {tokens : List Token} (isRest : IsRest source tokens) :
    fallback? (before ++ source ++ behind) (tokens.map (Token.later before.length) ++ extra) =
      fallback? source tokens := by
  have suffix := afterSuffixes_suffix tokens
  rw [fallback?, fallback?, afterSuffixes_excerpt ends isRest]
  cases found : afterSuffixes tokens with
  | nil =>
      cases extra with
      | nil => rfl
      | cons token rest =>
          have noBar : (token :: rest).head?.any (·.isSign "|") = false := by
            simpa using ends.isSign "|"
          have notOr : token.isWord "or" = false := ends.isWord (by decide) (by decide)
          simp only [List.map_nil, List.nil_append, notOr, Bool.false_eq_true, if_false]
          exact filterDescription?_of_noBar noBar
  | cons token rest =>
      rw [found] at suffix
      have isRestHere := isRest.suffix suffix
      rw [List.map_cons, List.cons_append]
      by_cases isOr : token.isWord "or" = true
      · have isOrLater : (token.later before.length).isWord "or" = true := isOr
        simp only [isOr, isOrLater, if_true]
        cases rest with
        | nil =>
            have complete := isRestHere.complete token rfl
            rw [Token.goesOn, isOr, Bool.or_true] at complete
            cases complete
        | cons operand rest =>
            exact operandDescription?_excerpt ends (isRestHere.suffix (List.suffix_cons token _))
      · have notOrLater : ¬ (token.later before.length).isWord "or" = true := isOr
        simp only [isOr, notOrLater]
        exact filterDescription?_excerpt ends isRestHere

end Descriptions

end Lineage.Template
