import Lineage.Proofs.ConditionForms
import Lineage.Proofs.Identifiers

/-!
# Reads in front of a default filter

A variable may have attributes, subscripts and calls behind it and any filters behind these, and
then a `default` filter.  The fallback of the read is looked for by walking over all of that.  Here
the chain is said as a grammar over tokens (`IsSuffix`, `IsFilter`), in which a group of brackets
may hold anything that closes its own brackets, and the walk is followed link by link
(`afterSuffixes_chain`, `filterDescription?_chain`).

An attribute may be a number too, as in `items.0`.  The walk does not take that for a suffix and
ends in front of its point, and then the default filter is not found.
-/

namespace Lineage.Template

open Lineage.Text

/-! ## Chains of suffixes and filters -/

/-- A group of brackets of the kind, whose inside pairs up its own. -/
def IsGroup (bracket : Bracket) (tokens : List Token) : Prop :=
  ∃ first inner last, tokens = first :: (inner ++ [last]) ∧
    first.isSign bracket.opening = true ∧ last.isSign bracket.closing = true ∧
    pairBrackets [] inner = .ok ()

/-- An attribute with a name. -/
def IsNamed (tokens : List Token) : Prop :=
  ∃ point name, tokens = [point, name] ∧ point.isSign "." = true ∧ name.word?.isSome = true

/-- An attribute that is a number. -/
def IsNumbered (tokens : List Token) : Prop :=
  ∃ point number digits, tokens = [point, number] ∧ point.isSign "." = true ∧
    number.lexeme = .number digits

/-- An attribute, a call or a subscript. -/
inductive IsSuffix (tokens : List Token) : Prop where
  | named (isNamed : IsNamed tokens)
  | numbered (isNumbered : IsNumbered tokens)
  | call (isGroup : IsGroup .round tokens)
  | subscript (isGroup : IsGroup .square tokens)

/-- A filter, with arguments or without, that is no default filter. -/
def IsFilter (tokens : List Token) : Prop :=
  ∃ bar name arguments filter, tokens = bar :: name :: arguments ∧ bar.isSign "|" = true ∧
    name.word? = some filter ∧ filter ∉ defaultFilters ∧
    (arguments = [] ∨ IsGroup .round arguments)

/-- The text is a variable with suffixes and filters, and the name of a default filter behind. -/
structure IsHead (text : List Char) (name : String) (suffixes filters : List (List Token)) :
    Prop where
  notKeyword : name ∉ keywords
  notBuiltin : name ∉ builtins
  suffix : ∀ suffix ∈ suffixes, IsSuffix suffix
  filter : ∀ filter ∈ filters, IsFilter filter
  tokens : ∃ bar last default, Token.all 0 text = .ok
      (⟨.word name, 0⟩ :: (suffixes.flatten ++ (filters.flatten ++ [bar, last]))) ∧
    bar.isSign "|" = true ∧ last.word? = some default ∧ default ∈ defaultFilters

/-- The text is an argument: its brackets pair up, and it is not empty and has no comma outside of
them. -/
structure IsArgument (text : List Char) (argument : Expression) : Prop where
  ofText : Expression.ofText text = .ok argument
  filled : argument.tokens ≠ []
  single : commaParts argument.tokens = [argument.tokens]

/-- The description of an argument: the inside of a string literal, and otherwise the text without
the blanks at its ends. -/
def Expression.description (argument : Expression) : String :=
  match argument.tokens with
  | [⟨.literal _ inner, _⟩] => String.ofList inner
  | _ => String.ofList (trim argument.source)

/-! ## Groups -/

theorem Token.opens?_opening {token : Token} {bracket : Bracket}
    (isOpening : token.isSign bracket.opening = true) : token.opens? = some bracket := by
  rw [Token.isSign, beq_iff_eq] at isOpening
  simp only [Token.opens?, Token.isSign, isOpening]
  cases bracket <;> rfl

theorem Token.closes?_closing {token : Token} {bracket : Bracket}
    (isClosing : token.isSign bracket.closing = true) :
    token.closes? = some bracket ∧ token.opens? = none := by
  rw [Token.isSign, beq_iff_eq] at isClosing
  simp only [Token.closes?, Token.opens?, Token.isSign, isClosing]
  cases bracket <;> exact ⟨rfl, rfl⟩

/-- A group ends behind what closes its own brackets. -/
theorem groupSize_behind {depth : Nat} {inner : List Token} (balanced : Balanced depth inner)
    (rest : List Token) :
    groupSize (depth + 1) (inner ++ rest) = inner.length + groupSize 1 rest := by
  induction inner generalizing depth with
  | nil =>
      rw [Balanced] at balanced
      rw [balanced, List.nil_append, List.length_nil, Nat.zero_add, Nat.zero_add]
  | cons token inner ih =>
      have goesOn : (token.closes?.isSome && token.depthAfter depth + 1 == 0) = false := by
        rw [Bool.and_eq_false_iff]
        exact Or.inr rfl
      rw [List.cons_append, groupSize, Token.depthAfter_add balanced.1, goesOn,
        if_neg Bool.false_ne_true, ih balanced.2, List.length_cons]
      omega

namespace IsGroup

variable {bracket : Bracket} {tokens : List Token} (isGroup : IsGroup bracket tokens)
include isGroup

theorem groupSize_eq (rest : List Token) : groupSize 0 (tokens ++ rest) = tokens.length := by
  rcases isGroup with ⟨first, inner, last, rfl, isOpening, isClosing, pairs⟩
  have opens := Token.opens?_opening isOpening
  have isOpen : first.opens?.isSome = true := by rw [opens, Option.isSome_some]
  rcases Token.closes?_closing isClosing with ⟨closes, noOpening⟩
  have isClosed : last.closes?.isSome = true := by rw [closes, Option.isSome_some]
  have ended : groupSize 1 (last :: rest) = 1 := by
    rw [groupSize, Token.depthAfter_of_closes? isClosed, isClosed]
    rfl
  have balanced : Balanced 0 inner := balanced_of_pairBrackets pairs
  rw [List.cons_append, groupSize, Token.closes?_of_opens? isOpen,
    Token.depthAfter_of_opens? isOpen, List.append_assoc]
  simp only [Option.isSome_none, Bool.false_and, Bool.false_eq_true, if_false,
    List.singleton_append]
  rw [groupSize_behind balanced, ended]
  simp

theorem group_eq (rest : List Token) : group (tokens ++ rest) = tokens := by
  rw [group, isGroup.groupSize_eq, List.take_left]

theorem afterGroup_eq (rest : List Token) : afterGroup (tokens ++ rest) = rest := by
  rw [afterGroup, isGroup.groupSize_eq, List.drop_left]

theorem pairs : pairBrackets [] tokens = .ok () := by
  rcases isGroup with ⟨first, inner, last, rfl, isOpening, isClosing, pairs⟩
  rcases Token.closes?_closing isClosing with ⟨closes, noOpening⟩
  have inside : pairBrackets ([] ++ [bracket]) (inner.map (Token.later 0) ++ [last]) =
      pairBrackets [bracket] [last] := pairBrackets_append pairs 0 [last]
  rw [Token.later_zero, List.map_id, List.nil_append] at inside
  rw [pairBrackets, Token.opens?_opening isOpening]
  dsimp only
  rw [inside]
  simp [pairBrackets, noOpening, closes]

end IsGroup

/-! ## Chains -/

theorem afterSuffixes_named {suffix : List Token} (isNamed : IsNamed suffix) (rest : List Token) :
    afterSuffixes (suffix ++ rest) = afterSuffixes rest := by
  rcases isNamed with ⟨point, name, rfl, isPoint, isWord⟩
  rw [List.cons_append, List.singleton_append, afterSuffixes]
  simp only [isPoint, isWord, if_true]

theorem afterSuffixes_group {bracket : Bracket} {suffix : List Token}
    (isGroup : IsGroup bracket suffix) (isSuffix : bracket = .round ∨ bracket = .square)
    (rest : List Token) : afterSuffixes (suffix ++ rest) = afterSuffixes rest := by
  have behind := isGroup.afterGroup_eq rest
  rcases isGroup with ⟨first, inner, last, rfl, isOpening, _⟩
  have noPoint : first.isSign "." = false := by
    apply Token.isSign_eq_false isOpening
    rcases isSuffix with rfl | rfl <;> decide
  have isBracket : (first.isSign "(" || first.isSign "[") = true := by
    rw [Bool.or_eq_true]
    rcases isSuffix with rfl | rfl
    · exact Or.inl isOpening
    · exact Or.inr isOpening
  rw [List.cons_append] at behind ⊢
  rw [afterSuffixes_of_bracket noPoint isBracket, behind]

/-- The walk over a suffix that is no number goes on behind it. -/
theorem IsSuffix.afterSuffixes_eq {suffix : List Token} (isSuffix : IsSuffix suffix)
    (noNumber : ¬ IsNumbered suffix) (rest : List Token) :
    afterSuffixes (suffix ++ rest) = afterSuffixes rest := by
  cases isSuffix with
  | named isNamed => exact afterSuffixes_named isNamed rest
  | numbered isNumbered => exact absurd isNumbered noNumber
  | call isGroup => exact afterSuffixes_group isGroup (Or.inl rfl) rest
  | subscript isGroup => exact afterSuffixes_group isGroup (Or.inr rfl) rest

/-- The walk over suffixes goes on behind them, if none is a number. -/
theorem afterSuffixes_chain {suffixes : List (List Token)}
    (isSuffix : ∀ suffix ∈ suffixes, IsSuffix suffix)
    (noNumber : ∀ suffix ∈ suffixes, ¬ IsNumbered suffix) (rest : List Token) :
    afterSuffixes (suffixes.flatten ++ rest) = afterSuffixes rest := by
  induction suffixes with
  | nil => rfl
  | cons suffix suffixes ih =>
      rcases List.forall_mem_cons.mp isSuffix with ⟨here, others⟩
      rcases List.forall_mem_cons.mp noNumber with ⟨noNumberHere, noNumberThere⟩
      rw [List.flatten_cons, List.append_assoc, here.afterSuffixes_eq noNumberHere,
        ih others noNumberThere]

/-- The walk over suffixes of which one is a number ends in front of the point of the first. -/
theorem exists_afterSuffixes_numbered {suffixes : List (List Token)}
    (isSuffix : ∀ suffix ∈ suffixes, IsSuffix suffix)
    (numbered : ∃ suffix ∈ suffixes, IsNumbered suffix) (rest : List Token) :
    ∃ point more, afterSuffixes (suffixes.flatten ++ rest) = point :: more ∧
      point.isSign "." = true := by
  induction suffixes with
  | nil => simp at numbered
  | cons suffix suffixes ih =>
      rcases List.forall_mem_cons.mp isSuffix with ⟨here, others⟩
      rw [List.flatten_cons, List.append_assoc]
      by_cases isNumbered : IsNumbered suffix
      · rcases isNumbered with ⟨point, number, digits, rfl, isPoint, isNumber⟩
        refine ⟨point, number :: (suffixes.flatten ++ rest), ?_, isPoint⟩
        have noWord : number.word?.isSome = false := by rw [Token.word?, isNumber]; rfl
        exact afterSuffixes_of_noName isPoint noWord
      · rw [here.afterSuffixes_eq isNumbered]
        apply ih others
        rcases numbered with ⟨other, member, isOther⟩
        rcases List.mem_cons.mp member with rfl | later
        · exact absurd isOther isNumbered
        · exact ⟨other, later, isOther⟩

/-- Where filters stand, the walk over suffixes ends, and there is no word. -/
theorem head_of_filters {filters : List (List Token)} (isFilter : ∀ filter ∈ filters, IsFilter filter)
    {bar : Token} (isBar : bar.isSign "|" = true) (rest : List Token) :
    ∃ first more, filters.flatten ++ bar :: rest = first :: more ∧ first.isSign "|" = true := by
  cases filters with
  | nil => exact ⟨bar, rest, rfl, isBar⟩
  | cons filter filters =>
      rcases isFilter filter List.mem_cons_self with ⟨first, name, arguments, _, rfl, isFirst, _⟩
      exact ⟨first, _, rfl, isFirst⟩

/-- The walk over filters goes on behind them, in front of another filter. -/
theorem filterDescription?_chain {source : List Char} {filters : List (List Token)}
    (isFilter : ∀ filter ∈ filters, IsFilter filter) {bar : Token} (isBar : bar.isSign "|" = true)
    (rest : List Token) : filterDescription? source (filters.flatten ++ bar :: rest) =
      filterDescription? source (bar :: rest) := by
  induction filters with
  | nil => rfl
  | cons filter filters ih =>
      rcases List.forall_mem_cons.mp isFilter with ⟨here, others⟩
      rcases here with ⟨first, name, arguments, word, rfl, isFirst, isWord, noDefault, called⟩
      rw [List.flatten_cons, List.append_assoc, List.cons_append, List.cons_append,
        filterDescription?_of_filter isFirst isWord noDefault, ← ih others]
      congr 1
      rcases called with rfl | isGroup
      · rcases head_of_filters others isBar rest with ⟨next, more, isNext, nextIsBar⟩
        rw [List.nil_append, isNext, afterArguments, List.head?_cons, Option.any_some,
          Token.isSign_eq_false nextIsBar (by decide), if_neg Bool.false_ne_true]
      · have behind := isGroup.afterGroup_eq (filters.flatten ++ bar :: rest)
        rcases isGroup with ⟨opening, inner, last, rfl, isOpening, _⟩
        have isCall : opening.isSign "(" = true := isOpening
        rw [List.cons_append] at behind ⊢
        rw [afterArguments, List.head?_cons, Option.any_some, isCall, if_pos rfl, behind]

/-! ## The expression -/

/-- A list whose brackets pair up may stand in front of another one. -/
theorem pairBrackets_flatten {parts : List (List Token)}
    (pairs : ∀ part ∈ parts, pairBrackets [] part = .ok ()) (rest : List Token) :
    pairBrackets [] (parts.flatten ++ rest) = pairBrackets [] rest := by
  induction parts with
  | nil => rfl
  | cons part parts ih =>
      rcases List.forall_mem_cons.mp pairs with ⟨here, others⟩
      have behind := pairBrackets_behind here 0 (parts.flatten ++ rest)
      rw [Token.later_zero, List.map_id] at behind
      rw [List.flatten_cons, List.append_assoc, behind, ih others]

theorem pairBrackets_of_isSign {token : Token} {sign : String} (isSign : token.isSign sign = true)
    (noBracket : ∀ bracket : Bracket, sign ≠ bracket.opening ∧ sign ≠ bracket.closing)
    (pending : List Bracket) (rest : List Token) :
    pairBrackets pending (token :: rest) = pairBrackets pending rest := by
  have noOpening : token.opens? = none := by
    rw [Token.opens?, List.find?_eq_none]
    intro bracket _
    rw [Token.isSign_eq_false isSign (noBracket bracket).1]
    exact Bool.false_ne_true
  have noClosing : token.closes? = none := by
    rw [Token.closes?, List.find?_eq_none]
    intro bracket _
    rw [Token.isSign_eq_false isSign (noBracket bracket).2]
    exact Bool.false_ne_true
  rw [pairBrackets, noOpening, noClosing]

theorem pairBrackets_of_word? {token : Token} (isWord : token.word?.isSome = true)
    (pending : List Bracket) (rest : List Token) :
    pairBrackets pending (token :: rest) = pairBrackets pending rest := by
  rcases token with ⟨lexeme, start⟩
  cases lexeme with
  | word name => exact pairBrackets_word pending name start rest
  | _ => cases isWord

theorem IsSuffix.pairs {suffix : List Token} (isSuffix : IsSuffix suffix) :
    pairBrackets [] suffix = .ok () := by
  have noBracket : ∀ bracket : Bracket, "." ≠ bracket.opening ∧ "." ≠ bracket.closing := by
    intro bracket
    cases bracket <;> decide
  cases isSuffix with
  | named isNamed =>
      rcases isNamed with ⟨point, name, rfl, isPoint, isWord⟩
      rw [pairBrackets_of_isSign isPoint noBracket, pairBrackets_of_word? isWord, pairBrackets]
  | numbered isNumbered =>
      rcases isNumbered with ⟨point, ⟨_, start⟩, digits, rfl, isPoint, rfl⟩
      rw [pairBrackets_of_isSign isPoint noBracket]
      rfl
  | call isGroup => exact isGroup.pairs
  | subscript isGroup => exact isGroup.pairs

theorem IsFilter.pairs {filter : List Token} (isFilter : IsFilter filter) :
    pairBrackets [] filter = .ok () := by
  have noBracket : ∀ bracket : Bracket, "|" ≠ bracket.opening ∧ "|" ≠ bracket.closing := by
    intro bracket
    cases bracket <;> decide
  rcases isFilter with ⟨bar, name, arguments, word, rfl, isBar, isWord, _, called⟩
  rw [pairBrackets_of_isSign isBar noBracket, pairBrackets_of_word? (by rw [isWord]; rfl)]
  rcases called with rfl | isGroup
  · rw [pairBrackets]
  · exact isGroup.pairs

/-- The text of a default filter behind its head. -/
def defaultText (head argument : List Char) : List Char :=
  head ++ '(' :: (argument ++ [')'])

theorem endsLexeme_bracket {c : Char} (isBracket : c = '(' ∨ c = ')') (more : List Char) :
    EndsLexeme (c :: more) := by
  rintro d ⟨⟩
  rcases isBracket with rfl | rfl
  · exact ⟨by decide, rfl, rfl, by decide⟩
  · exact ⟨by decide, rfl, rfl, by decide⟩

section Expression

variable {head text : List Char} {name : String} {suffixes filters : List (List Token)}
  {argument : Expression}

/-- The group of an argument that begins at the position. -/
def argumentGroup (start : Nat) (argument : Expression) : List Token :=
  ⟨.operator "(", start⟩ :: (argument.tokens.map (Token.later (start + 1)) ++
    [⟨.operator ")", start + 1 + argument.source.length⟩])

theorem reads_argumentGroup (isArgument : IsArgument text argument) (start : Nat) :
    Token.Reads start ('(' :: (text ++ [')'])) (argumentGroup start argument) := by
  rcases Expression.ofText_eq_ok_iff.mp isArgument.ofText with ⟨isSource, reads, _⟩
  have inside := reads.later (start + 1)
  rw [Nat.zero_add] at inside
  have opening : Lexeme.read '(' (text ++ [')']) = .ok (.operator "(", text ++ [')']) :=
    read_sign (by decide) (by decide) (by decide) (by decide) (by decide) _
  have closing : Lexeme.read ')' [] = .ok (.operator ")", []) := rfl
  apply Token.Reads.lexeme (by decide) opening
  apply inside.append (endsLexeme_bracket (Or.inr rfl) [])
  rw [isSource]
  exact .lexeme (by decide) closing (.nil _)

theorem isGroup_argumentGroup (isArgument : IsArgument text argument) (start : Nat) :
    IsGroup .round (argumentGroup start argument) := by
  rcases Expression.ofText_eq_ok_iff.mp isArgument.ofText with ⟨_, _, pairs⟩
  have inside := pairBrackets_behind pairs (start + 1) []
  rw [List.append_nil] at inside
  exact ⟨_, _, _, rfl, beq_self_eq_true _, beq_self_eq_true _, inside⟩

/-- What the text of a default filter is read as. -/
theorem exists_ofText_default (isHead : IsHead head name suffixes filters)
    (isArgument : IsArgument text argument) : ∃ bar last default,
      Expression.ofText (defaultText head text) = .ok ⟨defaultText head text,
        ⟨.word name, 0⟩ :: (suffixes.flatten ++ (filters.flatten ++ bar :: last ::
          argumentGroup head.length argument))⟩ ∧
      bar.isSign "|" = true ∧ last.word? = some default ∧ default ∈ defaultFilters := by
  rcases isHead.tokens with ⟨bar, last, default, isTokens, isBar, isWord, isDefault⟩
  refine ⟨bar, last, default, ?_, isBar, isWord, isDefault⟩
  have reads := (Token.all_eq_ok_iff.mp isTokens).append
    (endsLexeme_bracket (Or.inl rfl) (text ++ [')']))
    (reads_argumentGroup isArgument (0 + head.length))
  have noBracket : ∀ bracket : Bracket, "|" ≠ bracket.opening ∧ "|" ≠ bracket.closing := by
    intro bracket
    cases bracket <;> decide
  rw [Expression.ofText_eq_ok_iff]
  refine ⟨rfl, ?_, ?_⟩
  · simpa [defaultText] using reads
  · dsimp only
    rw [pairBrackets_word,
      pairBrackets_flatten fun suffix member => (isHead.suffix suffix member).pairs,
      pairBrackets_flatten fun filter member => (isHead.filter filter member).pairs,
      pairBrackets_of_isSign isBar noBracket, pairBrackets_of_word? (by rw [isWord]; rfl)]
    exact (isGroup_argumentGroup isArgument head.length).pairs

end Expression

/-! ## The description -/

/-- The tokens of a text reach from its first character to its last that is no separator. -/
theorem Token.Reads.exists_span {start : Nat} {text : List Char} {first : Token}
    {rest : List Token} (reads : Token.Reads start text (first :: rest)) :
    ∃ front span back, text = front ++ span ++ back ∧ (∀ c ∈ front, isSeparator c = true) ∧
      (∀ c ∈ back, isSeparator c = true) ∧ first.start = start + front.length ∧
      (rest.getLast?.getD first).stop = first.start + span.length := by
  generalize isTokens : first :: rest = tokens at reads
  induction reads generalizing first rest with
  | nil => cases isTokens
  | @separator start c text tokens separates _ ih =>
      rcases ih isTokens with ⟨front, span, back, rfl, areFront, areBack, starts, stops⟩
      refine ⟨c :: front, span, back, rfl, List.forall_mem_cons.mpr ⟨separates, areFront⟩, areBack,
        ?_, stops⟩
      rw [starts, List.length_cons]
      omega
  | @lexeme start c text after lexeme tokens filled read others ih =>
      cases isTokens
      have source := read_source read
      cases tokens with
      | nil =>
          exact ⟨[], lexeme.source, after, source.symm, List.forall_mem_nil _,
            isSeparator_of_reads_nil others, rfl, rfl⟩
      | cons second rest =>
          rcases ih rfl with ⟨front, span, back, rfl, _, areBack, starts, stops⟩
          refine ⟨[], lexeme.source ++ front ++ span, back, ?_, List.forall_mem_nil _, areBack, rfl,
            ?_⟩
          · rw [← source]
            simp
          · rw [List.getLast?_cons, Option.getD_some, stops, starts]
            simp
            omega

theorem trim_of_separators {front span back : List Char} (areFront : ∀ c ∈ front, isSeparator c = true)
    (areBack : ∀ c ∈ back, isSeparator c = true) : trim (front ++ span ++ back) = trim span := by
  rcases trimsTo_trim span with ⟨trimmed, before, after, areBefore, areAfter, isSpan⟩
  refine trim_of_trimsTo ⟨trimmed, front ++ before, after ++ back, ?_, ?_, ?_⟩
  · intro c member
    rcases List.mem_append.mp member with inFront | inBefore
    · exact isBlank_of_isSeparator (areFront c inFront)
    · exact areBefore c inBefore
  · intro c member
    rcases List.mem_append.mp member with inAfter | inBack
    · exact areAfter c inAfter
    · exact isBlank_of_isSeparator (areBack c inBack)
  · conv_lhs => rw [isSpan]
    simp

/-- The text from the first of the tokens to the last. -/
def textOf (source : List Char) : List Token → List Char
  | [] => []
  | first :: rest =>
    (source.drop first.start).take ((rest.getLast?.getD first).stop - first.start)

/-- The part of an expression that has the given tokens, with the text of these tokens only. -/
def Expression.piece (expression : Expression) (tokens : List Token) : Expression :=
  ⟨textOf expression.source tokens, tokens⟩

/-- No token is empty, and each ends before the next one begins. -/
structure InOrder (tokens : List Token) : Prop where
  filled : ∀ token ∈ tokens, token.start < token.stop
  apart : tokens.Pairwise fun first second => first.stop ≤ second.start

theorem Token.Reads.inOrder {start : Nat} {text : List Char} {tokens : List Token}
    (reads : Token.Reads start text tokens) : InOrder tokens := by
  constructor
  · exact fun token member => (reads.start_le token member).2
  · induction reads with
    | nil => exact .nil
    | separator _ _ ih => exact ih
    | lexeme filled read others ih =>
        exact List.pairwise_cons.mpr ⟨fun token member => (others.start_le token member).1, ih⟩

theorem InOrder.mono {tokens piece : List Token} (inOrder : InOrder tokens)
    (inside : piece <:+: tokens) : InOrder piece where
  filled token member := inOrder.filled token (inside.subset member)
  apart := inOrder.apart.sublist inside.sublist

/-- Tokens in order are described by their text, or by the inside of the one literal they are. -/
theorem describe_eq_description (expression : Expression) {first : Token} {rest : List Token}
    (inOrder : InOrder (first :: rest)) :
    describe expression.source first (rest.getLast?.getD first).stop =
      (expression.piece (first :: rest)).description := by
  have slice : describe.slice expression.source first (rest.getLast?.getD first).stop =
      String.ofList (trim (textOf expression.source (first :: rest))) := rfl
  rcases first with ⟨lexeme, start⟩
  rw [describe, slice]
  cases rest with
  | nil => cases lexeme <;> simp [Expression.description, Expression.piece]
  | cons second rest =>
      have isLast : (second :: rest).getLast?.getD ⟨lexeme, start⟩ ∈ second :: rest := by
        rw [List.getLast?_eq_some_getLast (List.cons_ne_nil second rest), Option.getD_some]
        exact List.getLast_mem _
      have behind := (List.pairwise_cons.mp inOrder.apart).1 _ isLast
      have filled := inOrder.filled _ (List.mem_cons_of_mem _ isLast)
      have apart : Token.stop ⟨lexeme, start⟩ ≠
          ((second :: rest).getLast?.getD ⟨lexeme, start⟩).stop := by
        omega
      cases lexeme with
      | literal mark inner =>
          simp only [if_neg apart, Expression.description, Expression.piece]
      | _ => rfl

/-- The tokens of a text are described by the text without the blanks at its ends, unless they are
one string literal. -/
theorem describe_eq {text : List Char} {first : Token} {rest : List Token}
    (reads : Token.Reads 0 text (first :: rest)) :
    describe text first (rest.getLast?.getD first).stop =
      Expression.description ⟨text, first :: rest⟩ := by
  have described : describe text first (rest.getLast?.getD first).stop =
      (Expression.piece ⟨text, first :: rest⟩ (first :: rest)).description :=
    describe_eq_description ⟨text, first :: rest⟩ reads.inOrder
  have whole : trim (textOf text (first :: rest)) = trim text := by
    rcases reads.exists_span with ⟨front, span, back, rfl, areFront, areBack, starts, stops⟩
    rw [textOf, stops, starts, Nat.zero_add, Nat.add_sub_cancel_left, List.append_assoc,
      List.drop_left, List.take_left, ← List.append_assoc, trim_of_separators areFront areBack]
  rw [described, Expression.piece]
  simp only [Expression.description, whole]

section Fallback

variable {head text : List Char} {name : String} {suffixes filters : List (List Token)}
  {argument : Expression}

theorem argumentDescription_eq (isArgument : IsArgument text argument) :
    argumentDescription argument.source argument.tokens = argument.description := by
  rcases Expression.ofText_eq_ok_iff.mp isArgument.ofText with ⟨isSource, reads, _⟩
  rw [argumentDescription, isArgument.single]
  rcases argument with ⟨source, tokens⟩
  cases tokens with
  | nil => exact absurd rfl isArgument.filled
  | cons first rest =>
      rw [← isSource] at reads
      have last : ((first :: rest).getLast?.getD first).stop = (rest.getLast?.getD first).stop := by
        rw [List.getLast?_cons, Option.getD_some]
      dsimp only [List.head?_cons, Option.getD_some]
      rw [last]
      exact describe_eq reads

/-- The default filter behind a head is described by its argument. -/
theorem filterDescription?_default (isArgument : IsArgument text argument) {bar last : Token}
    {default : String} (isBar : bar.isSign "|" = true) (isWord : last.word? = some default)
    (isDefault : default ∈ defaultFilters) :
    filterDescription? (defaultText head text)
        (bar :: last :: argumentGroup head.length argument) = some argument.description := by
  rcases Expression.ofText_eq_ok_iff.mp isArgument.ofText with ⟨isSource, reads, _⟩
  have isGroup := (isGroup_argumentGroup isArgument head.length).group_eq []
  rw [List.append_nil] at isGroup
  have source : defaultText head text = (head ++ ['(']) ++ argument.source ++ [')'] := by
    simp [defaultText, isSource]
  have start : head.length + 1 = (head ++ ['(']).length := by simp
  have called : (argumentGroup head.length argument).head?.any (·.isSign "(") = true :=
    beq_self_eq_true _
  have inside : (argumentGroup head.length argument).tail.dropLast =
      argument.tokens.map (Token.later (head ++ ['(']).length) := by
    rw [argumentGroup, List.tail_cons, List.dropLast_concat, start]
  rw [filterDescription?_of_default isBar isWord isDefault, called, if_pos rfl, isGroup, inside,
    source, argumentDescription_excerpt, argumentDescription_eq isArgument]
  intro token member
  have ends := reads.stop_le token member
  rwa [Nat.zero_add, ← isSource] at ends

/-- The fallback of a read in front of a default filter is the argument of the filter, unless an
attribute in between is a number: then there is none. -/
theorem fallback?_default (isHead : IsHead head name suffixes filters)
    (isArgument : IsArgument text argument) {bar last : Token} {default : String}
    (isBar : bar.isSign "|" = true) (isWord : last.word? = some default)
    (isDefault : default ∈ defaultFilters) :
    let after := suffixes.flatten ++ (filters.flatten ++ bar :: last ::
      argumentGroup head.length argument)
    ((∀ suffix ∈ suffixes, ¬ IsNumbered suffix) →
      fallback? (defaultText head text) after = some argument.description) ∧
    ((∃ suffix ∈ suffixes, IsNumbered suffix) →
      fallback? (defaultText head text) after = none) := by
  intro after
  constructor
  · intro noNumber
    rcases head_of_filters isHead.filter isBar (last :: argumentGroup head.length argument) with
      ⟨first, more, isFirst, firstIsBar⟩
    have stops : afterSuffixes after = filters.flatten ++ bar :: last ::
        argumentGroup head.length argument := by
      rw [afterSuffixes_chain isHead.suffix noNumber, isFirst]
      apply afterSuffixes_of_other (Token.isSign_eq_false firstIsBar (by decide))
      rw [Token.isSign_eq_false firstIsBar (by decide), Token.isSign_eq_false firstIsBar (by decide)]
      rfl
    have found : filterDescription? (defaultText head text)
        (bar :: last :: argumentGroup head.length argument) = some argument.description :=
      filterDescription?_default isArgument isBar isWord isDefault
    rw [← filterDescription?_chain isHead.filter isBar, isFirst] at found
    have notOr : first.isWord "or" = false := by
      rw [Token.isSign, beq_iff_eq] at firstIsBar
      rw [Token.isWord, firstIsBar]
      rfl
    rw [fallback?, stops, isFirst]
    simp only [notOr, Bool.false_eq_true, if_false]
    exact found
  · intro numbered
    rcases exists_afterSuffixes_numbered isHead.suffix numbered
      (filters.flatten ++ bar :: last :: argumentGroup head.length argument) with
      ⟨point, more, stops, isPoint⟩
    have notOr : point.isWord "or" = false := by
      rw [Token.isSign, beq_iff_eq] at isPoint
      rw [Token.isWord, isPoint]
      rfl
    rw [fallback?, stops]
    simp only [notOr, Bool.false_eq_true, if_false]
    apply filterDescription?_of_noBar
    rw [List.head?_cons, Option.any_some, Token.isSign_eq_false isPoint (by decide)]

/-! ## The template -/

/-- A suffix begins with a sign that is no equals sign. -/
theorem IsSuffix.exists_sign {suffix : List Token} (isSuffix : IsSuffix suffix) :
    ∃ first rest, suffix = first :: rest ∧ first.isSign "=" = false := by
  cases isSuffix with
  | named isNamed =>
      rcases isNamed with ⟨point, name, rfl, isPoint, _⟩
      exact ⟨point, [name], rfl, Token.isSign_eq_false isPoint (by decide)⟩
  | numbered isNumbered =>
      rcases isNumbered with ⟨point, number, _, rfl, isPoint, _⟩
      exact ⟨point, [number], rfl, Token.isSign_eq_false isPoint (by decide)⟩
  | call isGroup =>
      rcases isGroup with ⟨first, inner, last, rfl, isOpening, _⟩
      exact ⟨first, _, rfl, Token.isSign_eq_false isOpening (by decide)⟩
  | subscript isGroup =>
      rcases isGroup with ⟨first, inner, last, rfl, isOpening, _⟩
      exact ⟨first, _, rfl, Token.isSign_eq_false isOpening (by decide)⟩

theorem isRead_head {bar : Token} (isHead : IsHead head name suffixes filters)
    (isBar : bar.isSign "|" = true) (rest : List Token) :
    isRead .plain [] [] name (suffixes.flatten ++ (filters.flatten ++ bar :: rest)) = true := by
  have noEquals : (suffixes.flatten ++ (filters.flatten ++ bar :: rest)).head?.any (·.isSign "=") =
      false := by
    cases suffixes with
    | nil =>
        rcases head_of_filters isHead.filter isBar rest with ⟨first, more, isFirst, firstIsBar⟩
        rw [List.flatten_nil, List.nil_append, isFirst, List.head?_cons, Option.any_some,
          Token.isSign_eq_false firstIsBar (by decide)]
    | cons suffix suffixes =>
        rcases (isHead.suffix suffix List.mem_cons_self).exists_sign with ⟨first, more, rfl, other⟩
        exact other
  have noSuper : (name == "super") = false := by
    rw [beq_eq_false_iff_ne]
    rintro rfl
    exact isHead.notBuiltin (by decide)
  have noKeyword : keywords.contains name = false := by simpa using isHead.notKeyword
  have noBuiltin : builtins.contains name = false := by simpa using isHead.notBuiltin
  rw [isRead, noEquals, callsSuper, noSuper, noKeyword, noBuiltin]
  rfl

/-- The head of a default filter begins with the variable. -/
theorem IsHead.isTrimmed (isHead : IsHead head name suffixes filters) (text : List Char) :
    IsTrimmed (defaultText head text) := by
  rcases isHead.tokens with ⟨bar, last, _, isTokens, _⟩
  have reads := Token.all_eq_ok_iff.mp isTokens
  constructor
  · cases reads with
    | separator _ others =>
        have behind := (others.start_le _ List.mem_cons_self).1
        cases behind
    | @lexeme _ c rest after _ _ _ read _ =>
        rintro _ ⟨⟩
        exact isBlank_of_continuesWord (continuesWord_of_startsWord (startsWord_of_read read))
  · intro c isLast
    have isBracket : (defaultText head text).getLast? = some ')' := by
      rw [defaultText, ← List.cons_append, ← List.append_assoc, List.getLast?_concat]
    cases isBracket.symm.trans isLast
    decide

end Fallback

/-- The first occurrence of a list that begins with a word that is read: its guard is the fallback
that protects the word, where there is one. -/
theorem exists_occurrence {source : List Char} {context : Context} {bound : List String}
    {conditions : List InlineCondition} {before after : List Token} {name : String} {start : Nat}
    (read : isRead context bound before name after = true) :
    ∃ guard others,
      occurrencesFrom source context bound conditions before (⟨.word name, start⟩ :: after) =
        ⟨name, guard⟩ :: others ∧
      (∀ description, fallback? source after = some description → guard = .fallback description) ∧
      (fallback? source after = none → ∀ description, guard ≠ .fallback description) := by
  rw [occurrencesFrom]
  simp only [Token.word?, read, if_true]
  cases fallback? source after with
  | some description =>
      refine ⟨.fallback description, _, rfl, ?_, ?_⟩
      · intro _ found
        rw [Option.some.inj found]
      · intro found
        cases found
  | none =>
      by_cases conditional :
        (context == .test || conditions.any (·.guards before.length name)) = true
      · refine ⟨.conditional, _, by rw [conditional, if_pos rfl], ?_, ?_⟩
        · intro _ found
          cases found
        · intro _ _ isFallback
          cases isFallback
      · refine ⟨.bare, _, by rw [if_neg conditional], ?_, ?_⟩
        · intro _ found
          cases found
        · intro _ _ isFallback
          cases isFallback

/-- An output that is accepted outside all structures leaves the reads of its expression. -/
theorem Outline.empty_segment_output {text : List Char} {expression : Expression} {line : Nat}
    {after : Outline} (isExpression : Expression.ofText text = .ok expression) (filled : text ≠ [])
    (done : empty.segment (.output text line) = .ok after) :
    after = empty.add (empty.reads line expression .plain) := by
  have notEmpty : text.isEmpty = false := by simpa using filled
  have effects : Effect.ofOutput text = [.read expression .plain] := by
    rw [Effect.ofOutput, notEmpty, isExpression]
    rfl
  rw [segment, effects, applyAll_eq_ok_iff, foldlM_cons_eq_ok_iff] at done
  rcases done with ⟨middle, isRead, ended⟩
  cases ended
  rcases read_eq_ok_iff.mp isRead with ⟨_, rfl⟩ | ⟨_, block, innermost, _⟩
  · rfl
  · cases innermost

/-- A variable with suffixes and filters in front of a default filter is a read with a fallback, and
the argument of the filter describes it, as long as no attribute is a number.  Behind an attribute
that is a number the default filter is not found. -/
theorem Parsed.ofTemplate_default {head text : List Char} {name template : String}
    {suffixes filters : List (List Token)} {argument : Expression} {parsed : Parsed}
    (isHead : IsHead head name suffixes filters) (isArgument : IsArgument text argument)
    (read : Parsed.ofTemplate template (Construct.output.write (defaultText head text)) =
      .ok parsed) :
    ∃ guard others, parsed.reads = (name, guard) :: others ∧
      ((∀ suffix ∈ suffixes, ¬ IsNumbered suffix) → guard = .fallback argument.description) ∧
      ((∃ suffix ∈ suffixes, IsNumbered suffix) →
        ∀ description, guard ≠ .fallback description) := by
  rcases exists_ofText_default isHead isArgument with
    ⟨bar, last, default, isExpression, isBar, isWord, isDefault⟩
  rcases fallback?_default isHead isArgument isBar isWord isDefault with ⟨found, lost⟩
  have filled : defaultText head text ≠ [] := by simp [defaultText]
  have writable : ∀ part ∈ [Segment.output (defaultText head text) 0], part.IsWritable :=
    List.forall_mem_singleton.mpr ⟨isHead.isTrimmed text, Expression.isOutputText isExpression⟩
  have cut := Segment.ofTemplate_written writable (List.isChain_singleton _)
  rw [List.flatMap_singleton] at cut
  rcases Parsed.ofTemplate_eq_ok_iff.mp read with ⟨_, ofNodes, _⟩
  rcases Node.ofTemplate_eq_ok_iff.mp ofNodes with ⟨parts, outline, isCut, done, _, nodes⟩
  cases cut.symm.trans isCut
  rcases Outline.foldlM_cons_eq_ok_iff.mp done with ⟨after, segment, ended⟩
  cases ended
  have noBinding : Outline.empty.bound = [] := rfl
  have never : Outline.empty.isTested = fun _ => false := rfl
  rcases exists_occurrence (isRead_head isHead isBar _) with ⟨guard, others, first, kept, unkept⟩
  rw [Parsed.reads, ← nodes, Outline.empty_segment_output isExpression filled segment, Outline.add,
    Outline.empty, List.nil_append, ← Outline.empty, Outline.filterMap_reads, noBinding, never,
    Occurrence.guarded_never, List.map_id, Expression.occurrences, first]
  exact ⟨guard, _, rfl, fun noNumber => kept _ (found noNumber),
    fun numbered => unkept (lost numbered)⟩

/-- Attributes, a subscript, a call and two filters, of which one has arguments, in front of a
default filter. -/
theorem Parsed.ofTemplate_default_chain :
    let head := "items.or[0](k) | lower | replace('a', 'b') | default".toList
    let argument : Expression := ⟨" 'none' ".toList, [⟨.literal '\'' "none".toList, 1⟩]⟩
    let suffixes : List (List Token) := [[⟨.operator ".", 5⟩, ⟨.word "or", 6⟩],
      [⟨.operator "[", 8⟩, ⟨.number ['0'], 9⟩, ⟨.operator "]", 10⟩],
      [⟨.operator "(", 11⟩, ⟨.word "k", 12⟩, ⟨.operator ")", 13⟩]]
    let filters : List (List Token) := [[⟨.operator "|", 15⟩, ⟨.word "lower", 17⟩],
      [⟨.operator "|", 23⟩, ⟨.word "replace", 25⟩, ⟨.operator "(", 32⟩, ⟨.literal '\'' ['a'], 33⟩,
        ⟨.operator ",", 36⟩, ⟨.literal '\'' ['b'], 38⟩, ⟨.operator ")", 41⟩]]
    let parsed : Parsed :=
      ⟨"t", [.read "items" (.fallback "none") 1, .read "k" .bare 1]⟩
    IsHead head "items" suffixes filters ∧ IsArgument " 'none' ".toList argument ∧
      (∀ suffix ∈ suffixes, ¬ IsNumbered suffix) ∧
      Parsed.ofTemplate "t" (Construct.output.write (defaultText head " 'none' ".toList)) =
        .ok parsed ∧
      ∃ guard others, parsed.reads = ("items", guard) :: others ∧
        guard = .fallback argument.description := by
  intro head argument suffixes filters parsed
  have isSuffix : ∀ suffix ∈ suffixes, IsSuffix suffix := by
    simp only [suffixes, List.forall_mem_cons, List.not_mem_nil, false_imp_iff, implies_true,
      and_true]
    exact ⟨.named ⟨_, _, rfl, by decide, by decide⟩,
      .subscript ⟨_, [_], _, rfl, by decide, by decide, by decide⟩,
      .call ⟨_, [_], _, rfl, by decide, by decide, by decide⟩⟩
  have isFilter : ∀ filter ∈ filters, IsFilter filter := by
    simp only [filters, List.forall_mem_cons, List.not_mem_nil, false_imp_iff, implies_true,
      and_true]
    exact ⟨⟨_, _, _, "lower", rfl, by decide, rfl, by decide, Or.inl rfl⟩,
      ⟨_, _, _, "replace", rfl, by decide, rfl, by decide,
        Or.inr ⟨_, [_, _, _], _, rfl, by decide, by decide, by decide⟩⟩⟩
  have isHead : IsHead head "items" suffixes filters :=
    ⟨by decide, by decide, isSuffix, isFilter, ⟨.operator "|", 43⟩, ⟨.word "default", 45⟩,
      "default", by decide +kernel, by decide, rfl, by decide⟩
  have isArgument : IsArgument " 'none' ".toList argument :=
    ⟨by decide +kernel, by decide, by decide⟩
  have noNumber : ∀ suffix ∈ suffixes, ¬ IsNumbered suffix := by
    rintro suffix member ⟨point, number, digits, rfl, _, isNumber⟩
    simp [suffixes] at member
    rw [member.2] at isNumber
    cases isNumber
  have read : Parsed.ofTemplate "t"
      (Construct.output.write (defaultText head " 'none' ".toList)) = .ok parsed := by
    decide +kernel
  rcases Parsed.ofTemplate_default isHead isArgument read with ⟨guard, others, reads, found, _⟩
  exact ⟨isHead, isArgument, noNumber, read, guard, others, reads, found noNumber⟩

/-- An attribute that is a number hides the default filter behind it. -/
theorem Parsed.ofTemplate_default_numbered :
    let head := "items.0 | default".toList
    let argument : Expression := ⟨"'a'".toList, [⟨.literal '\'' ['a'], 0⟩]⟩
    let parsed : Parsed := ⟨"t", [.read "items" .bare 1]⟩
    IsHead head "items" [[⟨.operator ".", 5⟩, ⟨.number ['0'], 6⟩]] [] ∧
      IsArgument "'a'".toList argument ∧
      Construct.output.write (defaultText head "'a'".toList) =
        (Sample.output "items.0 | default('a')").toList ∧
      Parsed.ofTemplate "t" (Construct.output.write (defaultText head "'a'".toList)) = .ok parsed ∧
      ∀ others, parsed.reads ≠ ("items", .fallback argument.description) :: others := by
  intro head argument parsed
  have isSuffix : ∀ suffix ∈ [[⟨.operator ".", 5⟩, ⟨.number ['0'], 6⟩]], IsSuffix suffix :=
    List.forall_mem_singleton.mpr (.numbered ⟨_, _, ['0'], rfl, by decide, rfl⟩)
  refine ⟨⟨by decide, by decide, isSuffix, List.forall_mem_nil _, ⟨.operator "|", 8⟩,
    ⟨.word "default", 10⟩, "default", by decide +kernel, by decide, rfl, by decide⟩,
    ⟨by decide +kernel, by decide, by decide⟩, by decide +kernel, by decide +kernel, ?_⟩
  intro others same
  cases same

end Lineage.Template
