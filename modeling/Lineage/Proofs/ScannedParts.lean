import Lineage.Proofs.BalancedParts
import Lineage.Proofs.BlockNesting
import Lineage.Proofs.RenamedTags

/-!
# The expressions that are looked through

A tag or an output is one expression, and what is looked through for reads are parts of it: values,
parameters, sources, conditions.  Each such part pairs up its brackets (`Segment.scansParts`), apart
from one place.  The parameter list of a macro is only asked to begin with a round bracket and to
end with one, which need not be a pair.
-/

namespace Lineage.Template

/-- The expression is a part of the one that the text is.  If `closed`, its brackets pair up. -/
structure Expression.IsPartOf (text : List Char) (closed : Prop) (part : Expression) : Prop where
  inside : ∃ whole, Expression.ofText text = .ok whole ∧ part.source = whole.source ∧
    part.tokens <:+: whole.tokens
  pairs : closed → pairBrackets [] part.tokens = .ok ()

/-- What the effects look through are parts of the expression that the text is. -/
def ScansParts (text : List Char) (closed : Prop) (effects : List Effect) : Prop :=
  ∀ effect ∈ effects, ∀ expression, effect.scanned? = some expression →
    expression.IsPartOf text closed

/-- The same for a tag, unless it is refused. -/
def ScansPartsIfOk (text : List Char) (closed : Prop) (outcome : Except Cause (List Effect)) :
    Prop :=
  ∀ effects, outcome = .ok effects → ScansParts text closed effects

variable {text : List Char} {closed : Prop} {whole : Expression} {tokens : List Token}

namespace ScansParts

theorem nil : ScansParts text closed [] :=
  fun _ member => nomatch member

theorem read {expression : Expression} {context : Context} {effects : List Effect}
    (isPart : expression.IsPartOf text closed) (others : ScansParts text closed effects) :
    ScansParts text closed (.read expression context :: effects) := by
  intro effect member scanned found
  rcases List.mem_cons.mp member with rfl | later
  · cases found
    exact isPart
  · exact others effect later scanned found

theorem other {effect : Effect} {effects : List Effect} (unscanned : effect.scanned? = none)
    (others : ScansParts text closed effects) : ScansParts text closed (effect :: effects) := by
  intro other member scanned found
  rcases List.mem_cons.mp member with rfl | later
  · rw [unscanned] at found
    cases found
  · exact others other later scanned found

theorem append {first second : List Effect} (here : ScansParts text closed first)
    (there : ScansParts text closed second) : ScansParts text closed (first ++ second) := by
  intro effect member
  rcases List.mem_append.mp member with inFirst | inSecond
  · exact here effect inFirst
  · exact there effect inSecond

/-- A part is a part where more is asked for. -/
theorem mono {more : Prop} {effects : List Effect} (implied : more → closed)
    (scans : ScansParts text closed effects) : ScansParts text more effects := by
  intro effect member expression found
  obtain ⟨inside, pairs⟩ := scans effect member expression found
  exact ⟨inside, fun isClosed => pairs (implied isClosed)⟩

theorem orRefuse {outcome : Except Cause (List Effect)}
    (scans : ScansPartsIfOk text closed outcome) :
    ScansParts text closed (Effect.orRefuse outcome) := by
  cases outcome with
  | error cause => exact other rfl nil
  | ok effects => exact scans effects rfl

end ScansParts

namespace ScansPartsIfOk

theorem error (cause : Cause) : ScansPartsIfOk text closed (.error cause) :=
  fun _ accepted => nomatch accepted

theorem ok {effects : List Effect} (scans : ScansParts text closed effects) :
    ScansPartsIfOk text closed (.ok effects) := by
  rintro _ ⟨⟩
  exact scans

theorem bind {α : Type} {outcome : Except Cause α} {next : α → Except Cause (List Effect)}
    (each : ∀ value, outcome = .ok value → ScansPartsIfOk text closed (next value)) :
    ScansPartsIfOk text closed (outcome >>= next) := by
  intro effects accepted
  obtain ⟨value, isValue, rest⟩ := bind_eq_ok_iff.mp accepted
  exact each value isValue effects rest

end ScansPartsIfOk

/-! ## Parts of an expression -/

section Parts

theorem Expression.isPartOf_part (ofText : Expression.ofText text = .ok whole)
    (inside : tokens <:+: whole.tokens) (pairs : closed → pairBrackets [] tokens = .ok ()) :
    (whole.part tokens).IsPartOf text closed :=
  ⟨⟨whole, ofText, rfl, inside⟩, pairs⟩

theorem Expression.pairs_of_ofText (ofText : Expression.ofText text = .ok whole) :
    pairBrackets [] whole.tokens = .ok () :=
  (Expression.ofText_eq_ok_iff.mp ofText).2.2

theorem Expression.isPartOf_self (ofText : Expression.ofText text = .ok whole) :
    whole.IsPartOf text closed :=
  ⟨⟨whole, ofText, rfl, List.infix_rfl⟩, fun _ => Expression.pairs_of_ofText ofText⟩

/-- A binding is a name, an equals sign and its value. -/
theorem binding?_eq_some {part : List Token} {bound : Binding}
    (found : binding? part = some bound) :
    ∃ name equals, part = name :: equals :: bound.value ∧ name.word?.isSome = true ∧
      equals.isSign "=" = true := by
  match part with
  | [] => cases found
  | [_] => cases found
  | name :: equals :: value =>
      rw [binding?] at found
      split at found
      · rename_i isBinding
        obtain ⟨word, isWord, rfl⟩ := Option.map_eq_some_iff.mp found
        rw [Bool.and_eq_true] at isBinding
        exact ⟨name, equals, rfl, Option.isSome_of_mem isWord, isBinding.1⟩
      · cases found

/-- The value of a binding ends it, and pairs up its brackets where the binding does. -/
theorem value_of_binding? {part : List Token} {bound : Binding}
    (found : binding? part = some bound) : bound.value <:+ part ∧
      (pairBrackets [] part = .ok () → pairBrackets [] bound.value = .ok ()) := by
  obtain ⟨name, equals, rfl, isWord, isSign⟩ := binding?_eq_some found
  refine ⟨List.suffix_append [name, equals] bound.value, fun pairs => ?_⟩
  have plain : ∀ token ∈ [name, equals], token.isBracket = false := by
    rw [List.forall_mem_cons, List.forall_mem_singleton]
    exact ⟨Token.isBracket_of_word? isWord, Token.isBracket_of_isSign isSign (by decide)⟩
  exact pairs_right pairs (pairs_of_forall_not_isBracket plain)

theorem value_of_parameter? {part : List Token} {found : List Binding} {bound : Binding}
    (isParameter : parameter? part = some found) (member : bound ∈ found)
    (filled : bound.value ≠ []) : bound.value <:+ part ∧
      (pairBrackets [] part = .ok () → pairBrackets [] bound.value = .ok ()) := by
  match part with
  | [] =>
      cases isParameter
      cases member
  | [name] =>
      obtain ⟨word, _, rfl⟩ := Option.map_eq_some_iff.mp isParameter
      rw [List.mem_singleton] at member
      rw [member] at filled
      exact absurd rfl filled
  | first :: second :: rest =>
      obtain ⟨binding, isBinding, rfl⟩ := Option.map_eq_some_iff.mp isParameter
      rw [List.mem_singleton] at member
      rw [member]
      exact value_of_binding? isBinding

/-- The values of bindings that are parts of the expression are parts of it too. -/
theorem scansParts_readBindings (ofText : Expression.ofText text = .ok whole)
    {item? : List Token → Option (List Binding)} (refusal : Cause) {parts : List (List Token)}
    (values : ∀ part found, item? part = some found → ∀ bound ∈ found, bound.value ≠ [] →
      bound.value <:+ part ∧
        (pairBrackets [] part = .ok () → pairBrackets [] bound.value = .ok ()))
    (inside : ∀ part ∈ parts, part <:+: whole.tokens ∧
      (closed → pairBrackets [] part = .ok ())) :
    ScansParts text closed (readBindings item? refusal whole parts).1 := by
  induction parts with
  | nil => exact .nil
  | cons part parts ih =>
      rw [List.forall_mem_cons] at inside
      rw [readBindings]
      split
      · exact .nil
      · rename_i found isItem
        apply ScansParts.append
        · intro effect member expression scanned
          obtain ⟨bound, isBound, rfl⟩ := List.mem_map.mp member
          cases scanned
          rw [List.mem_filter, Bool.not_eq_true', List.isEmpty_eq_false_iff] at isBound
          obtain ⟨atEnd, pairs⟩ := values part found isItem bound isBound.1 isBound.2
          exact Expression.isPartOf_part ofText (atEnd.isInfix.trans inside.1.1)
            fun isClosed => pairs (inside.1.2 isClosed)
        · exact ih inside.2

theorem scansParts_readParameters (ofText : Expression.ofText text = .ok whole)
    (inside : tokens <:+: whole.tokens) (isGroup : closed → IsGroup .round tokens) :
    ScansParts text closed (readParameters whole tokens).1 := by
  rw [readParameters]
  split
  · exact .nil
  · rename_i inner round
    obtain ⟨first, last, rfl, _, _⟩ := withinRound?_eq_some_iff.mp round
    have innerInside : inner <:+: whole.tokens :=
      List.IsInfix.trans ⟨[first], [last], by simp⟩ inside
    apply scansParts_readBindings ofText
    · intro part found isParameter bound
      exact value_of_parameter? isParameter
    · intro part member
      refine ⟨(infix_of_mem_commaParts member).trans innerInside, fun isClosed => ?_⟩
      obtain ⟨first', inner', last', same, _, _, pairs⟩ := isGroup isClosed
      obtain ⟨rfl, _⟩ := List.append_inj' (List.cons.inj same).2 rfl
      exact pairs_of_mem_commaParts pairs member

/-- The targets of a `set` tag pair up their brackets. -/
theorem pairs_of_targetNames? {names : List String} (found : targetNames? tokens = some names) :
    pairBrackets [] tokens = .ok () := by
  rw [targetNames?] at found
  have words (part : List Token) (name : String) (isName : onlyWord? part = some name) :
      ∀ token ∈ part, token.isBracket = false := by
    rcases part with _ | ⟨token, _ | ⟨second, rest⟩⟩
    · cases isName
    · exact List.forall_mem_singleton.mpr (Token.isBracket_of_word? (Option.isSome_of_mem isName))
    · cases isName
  have noBracket : ∀ token ∈ (withinRound? tokens).getD tokens, token.isBracket = false :=
    forall_mem_of_commaParts found
      (fun _ isComma => Token.isBracket_of_isSign isComma (by decide)) words
  cases round : withinRound? tokens with
  | none =>
      rw [round, Option.getD_none] at noBracket
      exact pairs_of_forall_not_isBracket noBracket
  | some inner =>
      rw [round, Option.getD_some] at noBracket
      obtain ⟨first, last, rfl, opens, closes⟩ := withinRound?_eq_some_iff.mp round
      have isGroup : IsGroup .round (first :: (inner ++ [last])) :=
        ⟨first, inner, last, rfl, opens, closes, pairs_of_forall_not_isBracket noBracket⟩
      exact isGroup.pairs

end Parts

/-! ## The tags -/

section Tags

theorem scansParts_testEffects {before : List Effect} (front : ScansParts text closed before) :
    ScansParts text closed (testEffects before text) := by
  apply front.append
  apply ScansParts.orRefuse
  apply ScansPartsIfOk.bind
  intro whole ofText
  split
  · exact .error _
  · apply ScansPartsIfOk.ok
    intro effect member expression scanned
    rw [List.mem_singleton.mp member] at scanned
    cases scanned
    exact Expression.isPartOf_self ofText

theorem scansParts_extendsEffects (text : List Char) :
    ScansPartsIfOk text closed (extendsEffects text) := by
  apply ScansPartsIfOk.bind
  intro whole _
  split
  · exact .error _
  · exact .ok (.other rfl .nil)

theorem scansParts_blockEffects (text : List Char) :
    ScansPartsIfOk text closed (blockEffects text) := by
  apply ScansPartsIfOk.bind
  intro whole _
  split
  · exact .error _
  · split
    · split
      · exact .ok (.other rfl .nil)
      · exact .error _
    · exact .error _

theorem loopRange_isPrefix (tokens : List Token) : loopRange tokens <+: tokens := by
  unfold loopRange
  split
  · exact List.dropLast_prefix tokens
  · exact List.prefix_rfl

theorem pairs_loopRange (pairs : pairBrackets [] tokens = .ok ()) :
    pairBrackets [] (loopRange tokens) = .ok () := by
  rcases List.eq_nil_or_concat' tokens with rfl | ⟨front, last, rfl⟩
  · exact pairs
  · rw [loopRange_concat]
    split
    · rename_i isRecursive
      apply pairs_left pairs
      exact List.forall_mem_singleton.mpr (Token.isBracket_of_isWord isRecursive)
    · exact pairs

/-- The two sides of the first token outside brackets are parts of the expression. -/
theorem isPartOf_of_findTopLevel? (closed : Prop) (ofText : Expression.ofText text = .ok whole)
    {p : Token → Bool} {position : Nat} (inside : tokens <:+: whole.tokens)
    (pairs : pairBrackets [] tokens = .ok ()) (found : findTopLevel? p 0 tokens = some position)
    (noBracket : ∀ token, p token = true → token.isBracket = false) :
    (whole.part (tokens.take position)).IsPartOf text closed ∧
      (whole.part (tokens.drop (position + 1))).IsPartOf text closed := by
  obtain ⟨here, there⟩ := pairs_of_findTopLevel? pairs found noBracket
  have front := (List.take_prefix position tokens).isInfix.trans inside
  have back := (List.drop_suffix (position + 1) tokens).isInfix.trans inside
  exact ⟨Expression.isPartOf_part ofText front fun _ => here,
    Expression.isPartOf_part ofText back fun _ => there⟩

theorem scansParts_loopReads (ofText : Expression.ofText text = .ok whole) (names : List String)
    (inside : tokens <:+: whole.tokens) (pairs : pairBrackets [] tokens = .ok ()) :
    ScansPartsIfOk text closed (loopReads whole names tokens) := by
  rw [loopReads]
  cases found : findTopLevel? (·.isWord "if") 0 tokens with
  | none =>
      dsimp only
      split
      · exact .error _
      · exact .ok (.read (Expression.isPartOf_part ofText inside fun _ => pairs) (.other rfl .nil))
  | some condition =>
      obtain ⟨iterable, filter⟩ := isPartOf_of_findTopLevel? closed ofText inside pairs found
        fun _ => Token.isBracket_of_isWord
      dsimp only
      split
      · exact .error _
      · exact .ok (.read iterable (.other rfl (.read filter .nil)))

theorem scansParts_loopEffects (text : List Char) :
    ScansPartsIfOk text closed (loopEffects text) := by
  rw [loopEffects_eq]
  apply ScansPartsIfOk.bind
  intro whole ofText
  split
  · rename_i position isIn
    split
    · obtain ⟨_, pairs⟩ := pairs_of_findTopLevel? (Expression.pairs_of_ofText ofText) isIn
        fun _ => Token.isBracket_of_isWord
      apply scansParts_loopReads ofText _ _ (pairs_loopRange pairs)
      exact (loopRange_isPrefix _).isInfix.trans (List.drop_suffix _ _).isInfix
    · exact .error _
  · exact .error _

theorem scansParts_setEffects (text : List Char) :
    ScansPartsIfOk text closed (setEffects text) := by
  apply ScansPartsIfOk.bind
  intro whole ofText
  have pairs := Expression.pairs_of_ofText ofText
  split
  · rename_i position isEquals
    have value : (whole.part (whole.tokens.drop (position + 1))).IsPartOf text closed :=
      (isPartOf_of_findTopLevel? closed ofText List.infix_rfl pairs isEquals
        fun _ isSign => Token.isBracket_of_isSign isSign (by decide)).2
    dsimp only
    split
    · exact .error _
    · apply ScansPartsIfOk.ok
      apply ScansParts.read value
      split
      · exact .nil
      · split
        · exact .other rfl .nil
        · exact .other rfl .nil
  · rw [List.span_eq_takeWhile_dropWhile]
    dsimp only
    split
    · rename_i names areNames
      apply ScansPartsIfOk.ok
      apply ScansParts.append _ (.other rfl .nil)
      split
      · exact .nil
      · -- The targets in front of the filters pair up their brackets, and so do the filters.
        rw [← List.takeWhile_append_dropWhile (p := fun token => !token.isSign "|")
          (l := whole.tokens)] at pairs
        have filters := pairs_right pairs (pairs_of_targetNames? areNames)
        have atEnd := List.dropWhile_suffix (l := whole.tokens) fun token => !token.isSign "|"
        exact .read (Expression.isPartOf_part ofText atEnd.isInfix fun _ => filters) .nil
    · exact .error _

/-- A tag that reads bindings and goes on with parts of its expression. -/
theorem scansParts_bindingEffects {found : List Effect × Except Cause (List String)}
    {accepted : List String → List Effect} (reads : ScansParts text closed found.1)
    (others : ∀ names, ScansParts text closed (accepted names)) :
    ScansPartsIfOk text closed (bindingEffects found accepted) := by
  obtain ⟨bound, outcome⟩ := found
  cases outcome with
  | ok names => exact .ok (reads.append (others names))
  | error cause => exact .ok (reads.append (.other rfl .nil))

/-- The text is the argument of a macro whose parameters do not stand in one pair of brackets. -/
def HasLooseParameters (text : List Char) : Prop :=
  ∃ whole name parameters, Expression.ofText text = .ok whole ∧
    whole.tokens = name :: parameters ∧ ¬ IsGroup .round parameters

theorem scansParts_macroEffects (text : List Char) :
    ScansPartsIfOk text (¬ HasLooseParameters text) (macroEffects text) := by
  apply ScansPartsIfOk.bind
  intro whole ofText
  split
  · exact .error _
  · rename_i first parameters isTokens
    split
    · have inside : parameters <:+: whole.tokens := by
        rw [isTokens]
        exact (List.suffix_cons first parameters).isInfix
      have isGroup (tidy : ¬ HasLooseParameters text) : IsGroup .round parameters := by
        by_contra loose
        exact tidy ⟨whole, first, parameters, ofText, isTokens, loose⟩
      exact scansParts_bindingEffects (scansParts_readParameters ofText inside isGroup)
        fun names => .other rfl (.other rfl .nil)
    · exact .error _

theorem scansParts_invoke (ofText : Expression.ofText text = .ok whole)
    (inside : tokens <:+: whole.tokens) (pairs : pairBrackets [] tokens = .ok ())
    (names : List String) :
    ScansParts text closed (callEffects.invoke whole tokens names) := by
  rw [callEffects.invoke]
  split
  · exact .other rfl .nil
  · exact .read (Expression.isPartOf_part ofText inside fun _ => pairs) (.other rfl .nil)

theorem scansParts_callEffects (text : List Char) :
    ScansPartsIfOk text closed (callEffects text) := by
  apply ScansPartsIfOk.bind
  intro whole ofText
  have pairs := Expression.pairs_of_ofText ofText
  split
  · rename_i isRound
    have isGroup : IsGroup .round (group whole.tokens) := by
      cases isTokens : whole.tokens with
      | nil => simp [isTokens] at isRound
      | cons first rest =>
          rw [isTokens, List.head?_cons, Option.any_some] at isRound
          rw [isTokens] at pairs
          exact isGroup_group (pairBrackets_eq_ok_iff.mp pairs) (Token.opens?_opening isRound)
    have behind : pairBrackets [] (afterGroup whole.tokens) = .ok () := by
      rw [← group_append_afterGroup whole.tokens] at pairs
      exact pairs_right pairs isGroup.pairs
    apply scansParts_bindingEffects
    · exact scansParts_readParameters ofText (List.take_prefix _ _).isInfix fun _ => isGroup
    · exact scansParts_invoke ofText (afterGroup_suffix _).isInfix behind
  · exact .ok (scansParts_invoke ofText List.infix_rfl pairs [])

theorem scansParts_filterEffects (text : List Char) :
    ScansPartsIfOk text closed (filterEffects text) := by
  apply ScansPartsIfOk.bind
  intro whole ofText
  split
  · exact .ok (.read (Expression.isPartOf_self ofText) (.other rfl .nil))
  · exact .error _

theorem scansParts_withEffects (text : List Char) :
    ScansPartsIfOk text closed (withEffects text) := by
  apply ScansPartsIfOk.bind
  intro whole ofText
  split
  · exact .ok (.other rfl .nil)
  · apply scansParts_bindingEffects
    · apply scansParts_readBindings ofText
      · intro part found isItem bound member _
        obtain ⟨binding, isBinding, rfl⟩ := Option.map_eq_some_iff.mp isItem
        rw [List.mem_singleton.mp member]
        exact value_of_binding? isBinding
      · intro part member
        exact ⟨infix_of_mem_commaParts member,
          fun _ => pairs_of_mem_commaParts (Expression.pairs_of_ofText ofText) member⟩
    · exact fun names => .other rfl .nil

theorem scansParts_autoescapeEffects (text : List Char) :
    ScansPartsIfOk text closed (autoescapeEffects text) := by
  apply ScansPartsIfOk.bind
  intro whole ofText
  exact .ok (.read (Expression.isPartOf_self ofText) (.other rfl .nil))

theorem scansParts_includeEffects (text : List Char) :
    ScansPartsIfOk text closed (includeEffects text) := by
  apply ScansPartsIfOk.bind
  intro whole ofText
  dsimp only
  split
  · exact .error _
  · have pairs := pairs_withoutModifiers (Expression.pairs_of_ofText ofText)
    exact .ok (.read (Expression.isPartOf_part ofText (withoutModifiers_isPrefix _).isInfix
      fun _ => pairs) .nil)

theorem scansParts_importEffects (text : List Char) :
    ScansPartsIfOk text closed (importEffects text) := by
  apply ScansPartsIfOk.bind
  intro whole ofText
  have pairs := pairs_withoutModifiers (Expression.pairs_of_ofText ofText)
  have inside := (withoutModifiers_isPrefix whole.tokens).isInfix
  split
  · rename_i alias_ word template isLeft
    rw [List.reverse_eq_iff, List.reverse_cons, List.reverse_cons, List.append_assoc,
      List.singleton_append] at isLeft
    rw [isLeft] at pairs inside
    split
    · rename_i name isName
      split
      · rename_i isAlias
        rw [Bool.and_eq_true] at isAlias
        have plain : ∀ token ∈ [word, alias_], token.isBracket = false := by
          rw [List.forall_mem_cons, List.forall_mem_singleton]
          exact ⟨Token.isBracket_of_isWord isAlias.1,
            Token.isBracket_of_word? (Option.isSome_of_mem isName)⟩
        have isPart : (whole.part template.reverse).IsPartOf text closed :=
          Expression.isPartOf_part ofText ((List.prefix_append _ _).isInfix.trans inside)
            fun _ => pairs_left pairs plain
        exact .ok (.read isPart (.other rfl .nil))
      · exact .error _
    · exact .error _
  · exact .error _

theorem scansParts_fromEffects (text : List Char) :
    ScansPartsIfOk text closed (fromEffects text) := by
  apply ScansPartsIfOk.bind
  intro whole ofText
  dsimp only
  split
  · rename_i position isImport
    split
    · exact .error _
    · have isPart :
          (whole.part ((withoutModifiers whole.tokens).take position)).IsPartOf text closed :=
        (isPartOf_of_findTopLevel? closed ofText (withoutModifiers_isPrefix _).isInfix
          (pairs_withoutModifiers (Expression.pairs_of_ofText ofText)) isImport
          fun _ => Token.isBracket_of_isWord).1
      apply ScansPartsIfOk.ok
      apply ScansParts.read isPart
      apply ScansParts.other _ .nil
      split <;> rfl
  · exact .error _

end Tags

/-! ## Segments -/

/-- The segment is the tag of a macro whose parameters do not stand in one pair of brackets. -/
def Segment.IsLooseMacro : Segment → Prop
  | .tag body _ => tagName body = "macro" ∧ HasLooseParameters (tagArgument body)
  | _ => False

/-- The text of the expression of a segment. -/
def Segment.expressionText : Segment → List Char
  | .output body _ => body
  | .tag body _ => tagArgument body
  | _ => []

theorem scansParts_ofOutput (body : List Char) :
    ScansParts body closed (Effect.ofOutput body) := by
  unfold Effect.ofOutput
  split
  · exact .other rfl .nil
  · apply ScansParts.orRefuse
    apply ScansPartsIfOk.bind
    intro whole ofText
    exact .ok (.read (Expression.isPartOf_self ofText) .nil)

theorem scansParts_ofTag (body : List Char) :
    ScansParts (tagArgument body)
      (¬ (tagName body = "macro" ∧ HasLooseParameters (tagArgument body)))
      (Effect.ofTag body) := by
  unfold Effect.ofTag
  generalize tagName body = name
  dsimp only
  split
  · exact .other rfl .nil
  · exact .orRefuse (scansParts_extendsEffects _)
  · exact .orRefuse (scansParts_blockEffects _)
  · exact .other rfl .nil
  · exact scansParts_testEffects (.other rfl .nil)
  · exact scansParts_testEffects (.other rfl .nil)
  · exact .other rfl .nil
  · exact .orRefuse (scansParts_loopEffects _)
  · exact .orRefuse (scansParts_setEffects _)
  · apply ScansParts.mono _ (.orRefuse (scansParts_macroEffects _))
    exact fun tidy loose => tidy ⟨rfl, loose⟩
  · exact .orRefuse (scansParts_callEffects _)
  · exact .orRefuse (scansParts_filterEffects _)
  · exact .orRefuse (scansParts_withEffects _)
  · exact .orRefuse (scansParts_autoescapeEffects _)
  · exact .orRefuse (scansParts_includeEffects _)
  · exact .orRefuse (scansParts_importEffects _)
  · exact .orRefuse (scansParts_fromEffects _)
  · exact .other rfl .nil
  · exact .other rfl .nil
  · exact .other rfl .nil
  · exact .other rfl .nil
  · exact .other rfl .nil
  · exact .other rfl .nil
  · exact .other rfl .nil
  · exact .other rfl .nil
  · exact .other rfl .nil
  · exact .other rfl .nil

/-- What is looked through in a segment are parts of its expression, and they pair up their brackets
unless the segment is a macro with loose parameters. -/
theorem Segment.scansParts (part : Segment) :
    ScansParts part.expressionText (¬ part.IsLooseMacro) part.effects := by
  cases part with
  | text run line => exact .nil
  | comment body line => exact .nil
  | output body line => exact scansParts_ofOutput body
  | tag body line => exact scansParts_ofTag body

end Lineage.Template
