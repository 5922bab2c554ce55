import Lineage.Proofs.ReadNodes
import Lineage.Proofs.ScannedParts
import Lineage.Samples
import Mathlib.Data.List.Infix

/-!
# What the description of a fallback is the text of

The description of a fallback is the text of some tokens behind the read that it protects: of the
first argument of a default filter, or of the operand behind an `or` with the call or subscript that
follows directly.  These tokens pair up their brackets, with one exception: an operand that begins
with a bracket is described by that bracket, and not up to the one that closes it
(`Parsed.ofTemplate_fallback`).
-/

namespace Lineage.Template

open Lineage.Text

/-- The list closes the brackets that it opens, and those that are open in front of it. -/
def ClosesAll (tokens : List Token) : Prop :=
  ∃ pending, openBehind? pending tokens = some []

theorem ClosesAll.suffix {tokens rest : List Token} (closes : ClosesAll tokens)
    (atEnd : rest <:+ tokens) : ClosesAll rest := by
  obtain ⟨pending, behind⟩ := closes
  obtain ⟨front, rfl⟩ := atEnd
  rw [openBehind?_append, Option.bind_eq_some_iff] at behind
  obtain ⟨left, _, there⟩ := behind
  exact ⟨left, there⟩

theorem closesAll_of_pairs {tokens : List Token} (pairs : pairBrackets [] tokens = .ok ()) :
    ClosesAll tokens :=
  ⟨[], pairBrackets_eq_ok_iff.mp pairs⟩

/-- A round or square bracket at the start of the list begins a group. -/
theorem ClosesAll.exists_isGroup {tokens : List Token} (closes : ClosesAll tokens)
    (isCall : beginsWithCall tokens = true) : ∃ bracket, IsGroup bracket (group tokens) := by
  obtain ⟨pending, behind⟩ := closes
  cases tokens with
  | nil => cases isCall
  | cons first rest =>
      obtain ⟨bracket, opens⟩ := Option.isSome_iff_exists.mp (Token.opens?_of_isSign isCall)
      exact ⟨bracket, isGroup_group behind opens⟩

/-! ## The operand behind an `or` -/

section Operand

variable {expression : Expression} {operand : Token} {rest : List Token}

/-- The call or the subscript at the start of the list, if it begins with one. -/
def firstCall (tokens : List Token) : List Token :=
  if beginsWithCall tokens then group tokens else []

theorem firstCall_isPrefix (tokens : List Token) : firstCall tokens <+: tokens := by
  unfold firstCall
  split
  · exact List.take_prefix _ _
  · exact List.nil_prefix

theorem ClosesAll.pairs_firstCall (closes : ClosesAll rest) :
    pairBrackets [] (firstCall rest) = .ok () := by
  unfold firstCall
  split
  · rename_i isCall
    obtain ⟨bracket, isGroup⟩ := closes.exists_isGroup isCall
    exact isGroup.pairs
  · rfl

theorem operandDescription?_eq (inOrder : InOrder (operand :: rest)) :
    operandDescription? expression.source (operand :: rest) =
      some (expression.piece (operand :: firstCall rest)).description := by
  have inside : operand :: firstCall rest <+: operand :: rest :=
    (List.prefix_cons_inj operand).mpr (firstCall_isPrefix rest)
  rw [← describe_eq_description expression (inOrder.mono inside.isInfix), operandDescription?,
    firstCall]
  split
  · rfl
  · rfl

/-- An operand pairs up its brackets exactly if it does not begin with one. -/
theorem pairs_operand_iff (closes : ClosesAll rest) :
    pairBrackets [] (operand :: firstCall rest) = .ok () ↔ operand.isBracket = false := by
  have behind (pending : List Bracket) : openBehind? pending (firstCall rest) = some pending :=
    openBehind?_around (pairBrackets_eq_ok_iff.mp closes.pairs_firstCall) pending
  rw [pairBrackets_eq_ok_iff, openBehind?_cons]
  rcases operand.bracket_cases with ⟨bracket, opens⟩ | ⟨bracket, closes⟩ | noBracket
  · rw [Token.openBehind?_of_opens? opens, Option.bind_some, behind, Token.isBracket, opens]
    simp
  · rw [Token.openBehind?_of_closes? closes, Token.isBracket, closes]
    simp
  · rw [Token.openBehind?_of_not_isBracket noBracket, Option.bind_some, behind]
    simp [noBracket]

end Operand

/-! ## Default filters -/

section Filter

variable {expression : Expression} {tokens : List Token} {description : String}

/-- The first of several arguments. -/
def firstArgument (arguments : List Token) : List Token :=
  (commaParts arguments).head?.getD []

/-- The first argument reaches to a comma, or it is the only one. -/
theorem firstArgument_cases (arguments : List Token) :
    arguments = firstArgument arguments ∨ ∃ comma others,
      arguments = firstArgument arguments ++ comma :: others ∧ comma.isSign "," = true := by
  rw [firstArgument]
  cases cut : commaParts arguments with
  | nil => exact absurd cut (splitTopLevel_ne_nil _ _ _)
  | cons part parts =>
      rw [List.head?_cons, Option.getD_some]
      rcases splitTopLevel_eq_cons cut with ⟨only, _⟩ | ⟨comma, others, whole, isComma, _, _⟩
      · exact Or.inl only
      · exact Or.inr ⟨comma, others, whole, isComma⟩

theorem firstArgument_isPrefix (arguments : List Token) :
    firstArgument arguments <+: arguments := by
  rcases firstArgument_cases arguments with only | ⟨comma, others, whole, _⟩
  · exact ⟨[], by rw [List.append_nil, ← only]⟩
  · exact ⟨comma :: others, whole.symm⟩

theorem pairs_firstArgument {arguments : List Token} (pairs : pairBrackets [] arguments = .ok ()) :
    pairBrackets [] (firstArgument arguments) = .ok () := by
  rw [firstArgument]
  cases cut : (commaParts arguments).head? with
  | none => rfl
  | some part => exact pairs_of_mem_commaParts pairs (List.mem_of_mem_head? cut)

theorem argumentDescription_eq_description {arguments : List Token} (inOrder : InOrder arguments) :
    argumentDescription expression.source arguments =
      (expression.piece (firstArgument arguments)).description := by
  have inOrderHere := inOrder.mono (firstArgument_isPrefix arguments).isInfix
  rw [argumentDescription, ← firstArgument]
  cases isFirst : firstArgument arguments with
  | nil => rfl
  | cons first rest =>
      rw [isFirst] at inOrderHere
      dsimp only
      rw [← describe_eq_description expression inOrderHere, List.getLast?_cons, Option.getD_some]

/-- What stands between the brackets of the group at the start of the list. -/
theorem inner_group_isInfix (tokens : List Token) : (group tokens).tail.dropLast <:+: tokens :=
  (List.dropLast_prefix _).isInfix.trans
    ((List.tail_suffix _).isInfix.trans (List.take_prefix _ _).isInfix)

/-- Arguments at the start of the list stand in round brackets. -/
theorem ClosesAll.isGroup_round {tokens : List Token} (closes : ClosesAll tokens)
    (isCalled : tokens.head?.any (·.isSign "(") = true) : IsGroup .round (group tokens) := by
  obtain ⟨pending, behind⟩ := closes
  cases tokens with
  | nil => cases isCalled
  | cons first rest =>
      rw [List.head?_cons, Option.any_some] at isCalled
      exact isGroup_group behind (Token.opens?_opening isCalled)

/-- The piece is the first argument of the default filter of which the name stands in front of the
list, up to a comma or the closing bracket, or it is empty and the filter has no arguments. -/
def IsFirstArgument (rest piece : List Token) : Prop :=
  (piece = [] ∧ rest.head?.any (·.isSign "(") = false) ∨
    ∃ opening last back, rest = opening :: (piece ++ last :: back) ∧
      opening.isSign "(" = true ∧ (last.isSign "," = true ∨ last.isSign ")" = true)

theorem isFirstArgument_firstArgument {rest : List Token} (isGroup : IsGroup .round (group rest)) :
    IsFirstArgument rest (firstArgument (group rest).tail.dropLast) ∧
      pairBrackets [] (firstArgument (group rest).tail.dropLast) = .ok () := by
  have whole := (group_append_afterGroup rest).symm
  generalize afterGroup rest = back at whole
  obtain ⟨opening, inner, closing, same, isOpening, isClosing, pairs⟩ := isGroup
  rw [same, List.cons_append, List.append_assoc, List.singleton_append] at whole
  rw [same, List.tail_cons, List.dropLast_concat]
  refine ⟨Or.inr ?_, pairs_firstArgument pairs⟩
  rcases firstArgument_cases inner with only | ⟨comma, others, isInner, isComma⟩
  · exact ⟨opening, closing, back, only ▸ whole, isOpening, Or.inr isClosing⟩
  · refine ⟨opening, comma, others ++ closing :: back, ?_, isOpening, Or.inl isComma⟩
    rw [isInner, List.append_assoc] at whole
    exact whole

theorem ClosesAll.exists_arguments {tokens : List Token} (closes : ClosesAll tokens) :
    ∃ arguments, tokens = arguments ++ afterArguments tokens ∧
      (arguments = [] ∨ IsGroup .round arguments) := by
  by_cases isCalled : tokens.head?.any (·.isSign "(") = true
  · refine ⟨group tokens, ?_, Or.inr (closes.isGroup_round isCalled)⟩
    rw [afterArguments, if_pos isCalled, group_append_afterGroup]
  · refine ⟨[], ?_, Or.inl rfl⟩
    rw [afterArguments, if_neg isCalled, List.nil_append]

/-- The list begins with filters and a default filter behind them, and the piece is the first
argument of that one. -/
def IsDefaultArgument (tokens piece : List Token) : Prop :=
  ∃ (filters : List (List Token)) (bar name : Token) (filter : String) (rest : List Token),
    tokens = filters.flatten ++ bar :: name :: rest ∧
    (∀ filter ∈ filters, IsFilter filter) ∧ bar.isSign "|" = true ∧ name.word? = some filter ∧
    filter ∈ defaultFilters ∧ IsFirstArgument rest piece

theorem IsDefaultArgument.cons {filter tokens piece : List Token} (isFilter : IsFilter filter)
    (isArgument : IsDefaultArgument tokens piece) : IsDefaultArgument (filter ++ tokens) piece := by
  obtain ⟨filters, bar, name, word, rest, rfl, areFilters, others⟩ := isArgument
  refine ⟨filter :: filters, bar, name, word, rest, ?_, ?_, others⟩
  · rw [List.flatten_cons, List.append_assoc]
  · exact List.forall_mem_cons.mpr ⟨isFilter, areFilters⟩

theorem exists_piece_of_filterDescription? (inOrder : InOrder tokens)
    (found : filterDescription? expression.source tokens = some description) :
    ∃ piece, piece <:+: tokens ∧ description = (expression.piece piece).description ∧
      (ClosesAll tokens → IsDefaultArgument tokens piece ∧ pairBrackets [] piece = .ok ()) := by
  induction tokens using filters_induction with
  | noBar tokens noBar =>
      rw [filterDescription?_of_noBar noBar] at found
      cases found
  | noName bar rest isBar noName =>
      rw [filterDescription?_of_noName noName] at found
      cases found
  | default bar name rest filter isBar isWord isDefault =>
      have behind := List.suffix_append [bar, name] rest
      have argument {piece : List Token} (isFirst : IsFirstArgument rest piece) :
          IsDefaultArgument (bar :: name :: rest) piece :=
        ⟨[], bar, name, filter, rest, rfl, List.forall_mem_nil _, isBar, isWord, isDefault, isFirst⟩
      rw [filterDescription?_of_default isBar isWord isDefault, Option.some.injEq] at found
      split at found
      · rename_i isCalled
        have inside := (inner_group_isInfix rest).trans behind.isInfix
        refine ⟨firstArgument (group rest).tail.dropLast, ?_, ?_, ?_⟩
        · exact (firstArgument_isPrefix _).isInfix.trans inside
        · rw [← found, argumentDescription_eq_description (inOrder.mono inside)]
        · intro closes
          obtain ⟨isFirst, pairs⟩ :=
            isFirstArgument_firstArgument ((closes.suffix behind).isGroup_round isCalled)
          exact ⟨argument isFirst, pairs⟩
      · rename_i notCalled
        rw [Bool.not_eq_true] at notCalled
        exact ⟨[], List.nil_prefix.isInfix, found.symm,
          fun _ => ⟨argument (Or.inl ⟨rfl, notCalled⟩), rfl⟩⟩
  | filter bar name rest filter isBar isWord noDefault ih =>
      rw [filterDescription?_of_filter isBar isWord noDefault] at found
      have atEnd := List.suffix_append [bar, name] rest
      have behind := (afterArguments_suffix rest).trans atEnd
      obtain ⟨piece, inside, described, isArgument⟩ := ih (inOrder.mono behind.isInfix) found
      refine ⟨piece, inside.trans behind.isInfix, described, fun closes => ?_⟩
      obtain ⟨isFirst, pairs⟩ := isArgument (closes.suffix behind)
      obtain ⟨arguments, whole, isCall⟩ := (closes.suffix atEnd).exists_arguments
      have isFilter : IsFilter (bar :: name :: arguments) :=
        ⟨bar, name, arguments, filter, rfl, isBar, isWord, noDefault, isCall⟩
      have filtered : IsDefaultArgument (bar :: name :: arguments ++ afterArguments rest) piece :=
        isFirst.cons isFilter
      rw [List.cons_append, List.cons_append, ← whole] at filtered
      exact ⟨filtered, pairs⟩

end Filter

/-! ## The fallback of a read -/

/-- The list begins with an `or`, and the piece is the first token behind it with the call or the
subscript that follows. -/
def IsOrOperand (tokens piece : List Token) : Prop :=
  ∃ word operand rest, tokens = word :: operand :: rest ∧ word.isWord "or" = true ∧
    piece = operand :: firstCall rest

/-- Behind the suffixes at the start of the list stand an `or` and then a bracket. -/
def OrBracket (after : List Token) : Prop :=
  ∃ word bracket rest, afterSuffixes after = word :: bracket :: rest ∧
    word.isWord "or" = true ∧ bracket.isBracket = true

theorem orBracket_iff {after rest : List Token} {word operand : Token}
    (isAfter : afterSuffixes after = word :: operand :: rest) (isOr : word.isWord "or" = true) :
    OrBracket after ↔ operand.isBracket = true := by
  constructor
  · rintro ⟨_, _, _, same, _, isBracket⟩
    cases isAfter.symm.trans same
    exact isBracket
  · exact fun isBracket => ⟨word, operand, rest, isAfter, isOr, isBracket⟩

/-- The fallback of a read is the operand of an `or` or the argument of a default filter.  Its
brackets pair up unless it is an operand that begins with a bracket. -/
theorem exists_piece_of_fallback? {expression : Expression} {after : List Token}
    {description : String} (inOrder : InOrder after)
    (found : fallback? expression.source after = some description) :
    ∃ piece, piece <:+: after ∧ description = (expression.piece piece).description ∧
      (ClosesAll after →
        (IsOrOperand (afterSuffixes after) piece ∨ IsDefaultArgument (afterSuffixes after) piece) ∧
        (pairBrackets [] piece = .ok () ↔ ¬ OrBracket after)) := by
  have atEnd := afterSuffixes_suffix after
  rw [fallback?] at found
  cases isAfter : afterSuffixes after with
  | nil =>
      rw [isAfter] at found
      cases found
  | cons word rest =>
      rw [isAfter] at found atEnd
      dsimp only at found
      by_cases isOr : word.isWord "or" = true
      · rw [if_pos isOr] at found
        cases rest with
        | nil => cases found
        | cons operand rest =>
            have behind : operand :: rest <:+ after := (List.suffix_cons word _).trans atEnd
            have inside : operand :: firstCall rest <+: operand :: rest :=
              (List.prefix_cons_inj operand).mpr (firstCall_isPrefix rest)
            rw [operandDescription?_eq (inOrder.mono behind.isInfix), Option.some.injEq] at found
            refine ⟨_, inside.isInfix.trans behind.isInfix, found.symm, fun closes => ⟨?_, ?_⟩⟩
            · exact Or.inl ⟨word, operand, rest, rfl, isOr, rfl⟩
            · rw [pairs_operand_iff (closes.suffix ((List.suffix_cons operand rest).trans behind)),
                orBracket_iff isAfter isOr, Bool.not_eq_true]
      · rw [if_neg isOr] at found
        obtain ⟨piece, inside, described, isArgument⟩ :=
          exists_piece_of_filterDescription? (inOrder.mono atEnd.isInfix) found
        have noBracket : ¬ OrBracket after := by
          rintro ⟨_, _, _, same, isWord, _⟩
          cases isAfter.symm.trans same
          exact isOr isWord
        refine ⟨piece, inside.trans atEnd.isInfix, described, fun closes => ?_⟩
        obtain ⟨isFirst, pairs⟩ := isArgument (closes.suffix atEnd)
        exact ⟨Or.inr isFirst, iff_of_true pairs noBracket⟩

/-! ## The text of a template -/

theorem trim_isInfix (text : List Char) : trim text <:+: text := by
  obtain ⟨_, before, after, _, _, whole⟩ := trimsTo_trim text
  exact ⟨before, after, whole.symm⟩

theorem bodyOf_isInfix (inner : List Char) : bodyOf inner <:+: inner := by
  obtain ⟨lead, core, trail, _, _, whole, _, _, _, before, after, _, _, isCore⟩ :=
    isBodyOf_bodyOf inner
  refine ⟨lead ++ before, after ++ trail, ?_⟩
  conv_rhs => rw [whole, isCore]
  simp

theorem tagArgument_isInfix (body : List Char) : tagArgument body <:+: body :=
  (trim_isInfix _).trans (List.dropWhile_suffix _).isInfix

namespace Segment

variable {part : Segment} {line : Nat}

theorem expressionText_of_segment? {piece : Piece} (shown : piece.segment? line = some part) :
    part.expressionText <:+: piece.source := by
  cases piece with
  | text run =>
      cases shown
      exact List.nil_infix
  | comment inner =>
      cases shown
      exact List.nil_infix
  | output inner =>
      cases shown
      exact (bodyOf_isInfix inner).trans ⟨['{', '{'], ['}', '}'], by simp [Piece.source]⟩
  | tag inner =>
      cases shown
      have inside : bodyOf inner <:+: Piece.source (.tag inner) :=
        (bodyOf_isInfix inner).trans ⟨['{', '%'], ['%', '}'], by simp [Piece.source]⟩
      exact (tagArgument_isInfix _).trans inside
  | raw inner run ending =>
      rw [Piece.segment?] at shown
      split at shown
      · cases shown
      · cases shown
        exact List.nil_infix

theorem exists_piece_of_mem_ofPieces {pieces : List Piece} (member : part ∈ ofPieces line pieces) :
    ∃ piece ∈ pieces, ∃ line, piece.segment? line = some part := by
  induction pieces generalizing line with
  | nil => cases member
  | cons piece pieces ih =>
      rw [ofPieces] at member
      rcases List.mem_append.mp member with here | later
      · exact ⟨piece, List.mem_cons_self, line, Option.mem_toList.mp here⟩
      · obtain ⟨other, inPieces, shows⟩ := ih later
        exact ⟨other, List.mem_cons_of_mem _ inPieces, shows⟩

/-- The expression of a segment stands in the template. -/
theorem expressionText_isInfix {text : List Char} {parts : List Segment}
    (cut : ofTemplate text = .ok parts) (member : part ∈ parts) :
    part.expressionText <:+: text := by
  obtain ⟨pieces, found, rfl⟩ := ofTemplate_eq_ok_iff.mp cut
  obtain ⟨piece, inPieces, line, shows⟩ := exists_piece_of_mem_ofPieces member
  rw [← pieces_source found]
  exact (expressionText_of_segment? shows).trans
    (List.infix_of_mem_flatten (List.mem_map_of_mem inPieces))

end Segment

/-- The expression is looked through in the segment `part` of the template: its tokens are some of
those of an expression in the text of the template. -/
structure Expression.IsScannedIn (text : List Char) (part : Segment) (expression : Expression) :
    Prop where
  segment : ∃ parts, Segment.ofTemplate text = .ok parts ∧ part ∈ parts
  scanned : ∃ effect ∈ part.effects, effect.scanned? = some expression
  source : expression.source <:+: text
  tokens : ∃ whole, Expression.ofText expression.source = .ok whole ∧
    expression.tokens <:+: whole.tokens

/-- What is looked through pairs up its brackets, unless it stands in a macro with loose
parameters. -/
theorem Expression.IsScannedIn.pairs {text : List Char} {part : Segment} {expression : Expression}
    (isScanned : expression.IsScannedIn text part) (tidy : ¬ part.IsLooseMacro) :
    pairBrackets [] expression.tokens = .ok () := by
  obtain ⟨effect, inEffects, scanned⟩ := isScanned.scanned
  exact (part.scansParts effect inEffects expression scanned).pairs tidy

theorem Expression.IsScannedIn.inOrder {text : List Char} {part : Segment}
    {expression : Expression} (isScanned : expression.IsScannedIn text part) :
    InOrder expression.tokens := by
  obtain ⟨whole, ofText, inside⟩ := isScanned.tokens
  exact (Expression.ofText_eq_ok_iff.mp ofText).2.1.inOrder.mono inside

theorem isScannedIn_of_mem {text : List Char} {parts : List Segment} {part : Segment}
    {effect : Effect} {expression : Expression} (cut : Segment.ofTemplate text = .ok parts)
    (inParts : part ∈ parts) (inEffects : effect ∈ part.effects)
    (scanned : effect.scanned? = some expression) : expression.IsScannedIn text part := by
  obtain ⟨whole, ofText, sameSource, inside⟩ :=
    (part.scansParts effect inEffects expression scanned).inside
  have isSource := (Expression.ofText_eq_ok_iff.mp ofText).1
  refine ⟨⟨parts, cut, inParts⟩, ⟨effect, inEffects, scanned⟩, ?_, whole, ?_, inside⟩
  · rw [sameSource, isSource]
    exact Segment.expressionText_isInfix cut inParts
  · rwa [sameSource, isSource]

/-! ## The reads of a template -/

theorem Outline.exists_reads_of_mem_readsOf {outline : Outline} {line : Nat} {effect : Effect}
    {node : Node} (member : node ∈ outline.readsOf line effect) :
    ∃ expression context, effect.scanned? = some expression ∧
      node ∈ outline.reads line expression context := by
  cases effect with
  | read expression context => exact ⟨expression, context, rfl, member⟩
  | test expression => exact ⟨expression, .test, rfl, member⟩
  | _ => cases member

/-- A read with a fallback is a word of the expression, and the fallback stands behind it. -/
theorem Outline.exists_word_of_mem_reads {outline : Outline} {line place : Nat}
    {expression : Expression} {context : Context} {name description : String}
    (member : .read name (.fallback description) place ∈ outline.reads line expression context) :
    ∃ ahead word after, expression.tokens = ahead ++ word :: after ∧ word.word? = some name ∧
      fallback? expression.source after = some description := by
  obtain ⟨occurrence, isOccurrence, isNode⟩ := List.mem_map.mp member
  obtain ⟨ahead, word, after, whole, isWord, _, guarded⟩ :=
    mem_occurrencesFrom_iff.mp isOccurrence
  simp only [readNode, Node.read.injEq] at isNode
  obtain ⟨rfl, isFallback, _⟩ := isNode
  refine ⟨ahead, word, after, whole, isWord, ?_⟩
  split at isFallback
  · cases isFallback
  · rw [guarded, guardAt] at isFallback
    split at isFallback
    · rename_i found
      cases isFallback
      exact found
    · split at isFallback
      · cases isFallback
      · cases isFallback

/-- The description of a fallback is the text of a piece of the expression that stands behind the
read: the operand of an `or`, or the whole first argument of a default filter in the chain of
filters.  The piece pairs up its brackets unless it is an operand that begins with a bracket.  A
macro may have parameters that are not in one pair of brackets, and of these no more is known than
that a piece is described. -/
theorem Parsed.ofTemplate_fallback {template name description : String} {text : List Char}
    {line : Nat} {parsed : Parsed} (read : Parsed.ofTemplate template text = .ok parsed)
    (member : .read name (.fallback description) line ∈ parsed.nodes) :
    ∃ (part : Segment) (expression : Expression) (word : Token) (after piece : List Token),
      expression.IsScannedIn text part ∧ word :: after <:+ expression.tokens ∧
      word.word? = some name ∧ piece <:+: after ∧
      description = (expression.piece piece).description ∧
      (¬ part.IsLooseMacro →
        (IsOrOperand (afterSuffixes after) piece ∨ IsDefaultArgument (afterSuffixes after) piece) ∧
        (pairBrackets [] piece = .ok () ↔ ¬ OrBracket after)) := by
  obtain ⟨_, ofNodes, _⟩ := Parsed.ofTemplate_eq_ok_iff.mp read
  obtain ⟨parts, outline, cut, done, _, nodes⟩ := Node.ofTemplate_eq_ok_iff.mp ofNodes
  rw [← nodes] at member
  rcases Outline.exists_part_of_read rfl done member with
    before | ⟨part, inParts, effect, inEffects, middle, place, found⟩
  · cases before
  · obtain ⟨expression, context, scanned, inReads⟩ := Outline.exists_reads_of_mem_readsOf found
    obtain ⟨ahead, word, after, whole, isWord, isFallback⟩ :=
      Outline.exists_word_of_mem_reads inReads
    have isScanned := isScannedIn_of_mem cut inParts inEffects scanned
    have atEnd : word :: after <:+ expression.tokens := ⟨ahead, whole.symm⟩
    have behind : after <:+ expression.tokens := (List.suffix_cons word after).trans atEnd
    obtain ⟨piece, inside, described, paired⟩ :=
      exists_piece_of_fallback? (isScanned.inOrder.mono behind.isInfix) isFallback
    refine ⟨part, expression, word, after, piece, isScanned, atEnd, isWord, inside, described, ?_⟩
    exact fun tidy => paired ((closesAll_of_pairs (isScanned.pairs tidy)).suffix behind)

/-- An argument of a default filter with brackets of all kinds, and a comma inside of them. -/
theorem Parsed.ofTemplate_fallback_call :
    let text := (Sample.output "c | default(f(x, [1])[0], d)").toList
    let parsed : Parsed := ⟨"t", [.read "c" (.fallback "f(x, [1])[0]") 1, .read "f" .bare 1,
      .read "x" .bare 1, .read "d" .bare 1]⟩
    Parsed.ofTemplate "t" text = .ok parsed ∧
      .read "c" (.fallback "f(x, [1])[0]") 1 ∈ parsed.nodes ∧
      ∃ (part : Segment) (expression : Expression) (piece : List Token),
        expression.IsScannedIn text part ∧ piece <:+: expression.tokens ∧
        "f(x, [1])[0]" = (expression.piece piece).description := by
  intro text parsed
  have read : Parsed.ofTemplate "t" text = .ok parsed := by decide +kernel
  have member : .read "c" (.fallback "f(x, [1])[0]") 1 ∈ parsed.nodes := List.mem_cons_self
  obtain ⟨part, expression, word, after, piece, isScanned, atEnd, _, inside, described, _⟩ :=
    Parsed.ofTemplate_fallback read member
  have behind := (List.suffix_cons word after).trans atEnd
  exact ⟨read, member, part, expression, piece, isScanned, inside.trans behind.isInfix, described⟩

/-- What is asked of the pieces of a list, one after another. -/
theorem forall_infix_iff {property : List Token → Prop} {tokens : List Token} :
    (∀ piece, piece <:+: tokens → property piece) ↔
      ∀ rest ∈ tokens.tails, ∀ piece ∈ rest.inits, property piece := by
  constructor
  · intro each rest isRest piece isPiece
    rw [List.mem_tails] at isRest
    rw [List.mem_inits] at isPiece
    exact each piece (isPiece.isInfix.trans isRest.isInfix)
  · intro each piece inside
    obtain ⟨rest, isPrefix, isSuffix⟩ := List.infix_iff_prefix_suffix.mp inside
    exact each rest ((List.mem_tails _ _).mpr isSuffix) piece ((List.mem_inits _ _).mpr isPrefix)

/-- An operand in brackets is described by its opening bracket, and an argument in the parameters of
a macro without its closing one.  No piece of these expressions whose brackets pair up has such a
description. -/
theorem Parsed.ofTemplate_fallback_unpaired :
    let output := "a or (b)"
    let macro_ := "f(b=c) d | default(x(1))"
    Parsed.ofTemplate "t" (Sample.output output).toList =
        .ok ⟨"t", [.read "a" (.fallback "(") 1, .read "b" .bare 1]⟩ ∧
      (∃ expression, Expression.ofText output.toList = .ok expression ∧
        ∀ piece, piece <:+: expression.tokens → pairBrackets [] piece = .ok () →
          (expression.piece piece).description ≠ "(") ∧
      Parsed.ofTemplate "t" (Sample.tag ("macro " ++ macro_) ++ Sample.tag "endmacro").toList =
        .ok ⟨"t", [.read "c" .bare 1, .read "d" (.fallback "x(1") 1, .read "x" .bare 1,
          .assign "f" 1]⟩ ∧
      ∃ expression, Expression.ofText macro_.toList = .ok expression ∧
        ∀ piece, piece <:+: expression.tokens → pairBrackets [] piece = .ok () →
          (expression.piece piece).description ≠ "x(1" := by
  intro output macro_
  have unpaired (text : List Char) (expression : Expression) (description : String)
      (ofText : Expression.ofText text = .ok expression)
      (none : ∀ rest ∈ expression.tokens.tails, ∀ piece ∈ rest.inits,
        pairBrackets [] piece = .ok () → (expression.piece piece).description ≠ description) :
      ∃ expression, Expression.ofText text = .ok expression ∧
        ∀ piece, piece <:+: expression.tokens → pairBrackets [] piece = .ok () →
          (expression.piece piece).description ≠ description :=
    ⟨expression, ofText, forall_infix_iff.mpr none⟩
  refine ⟨by decide +kernel, ?_, by decide +kernel, ?_⟩
  · exact unpaired _ ⟨output.toList, [⟨.word "a", 0⟩, ⟨.word "or", 2⟩, ⟨.operator "(", 5⟩,
      ⟨.word "b", 6⟩, ⟨.operator ")", 7⟩]⟩ _ (by decide +kernel) (by decide +kernel)
  · exact unpaired _ ⟨macro_.toList, [⟨.word "f", 0⟩, ⟨.operator "(", 1⟩, ⟨.word "b", 2⟩,
      ⟨.operator "=", 3⟩, ⟨.word "c", 4⟩, ⟨.operator ")", 5⟩, ⟨.word "d", 7⟩, ⟨.operator "|", 9⟩,
      ⟨.word "default", 11⟩, ⟨.operator "(", 18⟩, ⟨.word "x", 19⟩, ⟨.operator "(", 20⟩,
      ⟨.number ['1'], 21⟩, ⟨.operator ")", 22⟩, ⟨.operator ")", 23⟩]⟩ _ (by decide +kernel)
      (by decide +kernel)

end Lineage.Template
