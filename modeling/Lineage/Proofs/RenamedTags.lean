import Lineage.Proofs.Acceptance
import Lineage.Proofs.RenamedLists

/-!
# Tags in which an attribute has another name

The effects of a tag with a renamed token list are the same, except that it reads renamed expressions
(`Effect.Renamed`).  Three tags look for a keyword of their own: a loop for its `in`, an import for
`as` and `import`.  In front of its `in` a loop that is accepted has no attribute.  In the other two
an attribute with the name of the keyword is taken for it, so that their keywords are left out.
-/

namespace Lineage.Template

/-! ## Effects -/

/-- Two expressions of which the one is a renaming of the other, apart from modifiers that were
dropped behind a point. -/
def Expression.Renamed (apart : Prop) (old new : String) (expression expression' : Expression) :
    Prop :=
  ∃ whole whole', IsLeft whole expression.tokens ∧ IsLeft whole' expression'.tokens ∧
    Renames apart old new false whole whole'

/-- Two effects that are the same, except that they may read renamed expressions. -/
inductive Effect.Renamed (apart : Prop) (old new : String) : Effect → Effect → Prop
  | same (effect : Effect) : Effect.Renamed apart old new effect effect
  | read {expression expression' : Expression} (context : Context)
      (renamed : expression.Renamed apart old new expression') :
      Effect.Renamed apart old new (.read expression context) (.read expression' context)
  | test {expression expression' : Expression}
      (renamed : expression.Renamed apart old new expression') :
      Effect.Renamed apart old new (.test expression) (.test expression')

/-- Where the one tag is accepted the other is, with renamed effects. -/
def KeepsEffects (apart : Prop) (old new : String)
    (outcome outcome' : Except Cause (List Effect)) : Prop :=
  ∀ effects, outcome = .ok effects → effects.any Effect.isRefusal = false →
    ∃ effects', outcome' = .ok effects' ∧
      List.Forall₂ (Effect.Renamed apart old new) effects effects'

/-- The two texts are expressions of which the one is a renaming of the other. -/
def RenamesText (apart : Prop) (old new : String) (text text' : List Char) : Prop :=
  ∃ expression expression', Expression.ofText text = .ok expression ∧
    Expression.ofText text' = .ok expression' ∧
      Renames apart old new false expression.tokens expression'.tokens

section Effects

variable {apart : Prop} {old new : String}

theorem Renames.part {tokens renamed : List Token}
    (renames : Renames apart old new false tokens renamed) (expression expression' : Expression) :
    (expression.part tokens).Renamed apart old new (expression'.part renamed) :=
  ⟨tokens, renamed, Or.inl rfl, Or.inl rfl, renames⟩

theorem Effect.forall₂_renamed_same (effects : List Effect) :
    List.Forall₂ (Effect.Renamed apart old new) effects effects := by
  induction effects with
  | nil => exact .nil
  | cons effect _ ih => exact .cons (.same effect) ih

namespace KeepsEffects

variable {text text' : List Char}

theorem ofText {next next' : Expression → Except Cause (List Effect)}
    (renames : RenamesText apart old new text text')
    (each : ∀ expression expression' : Expression,
      Renames apart old new false expression.tokens expression'.tokens →
        KeepsEffects apart old new (next expression) (next' expression')) :
    KeepsEffects apart old new (Expression.ofText text >>= next)
      (Expression.ofText text' >>= next') := by
  rcases renames with ⟨expression, expression', isExpression, isExpression', renames⟩
  rw [isExpression, isExpression']
  exact each expression expression' renames

theorem error (cause : Cause) (outcome : Except Cause (List Effect)) :
    KeepsEffects apart old new (.error cause) outcome :=
  fun _ accepted => nomatch accepted

theorem ok {effects effects' : List Effect}
    (renamed : List.Forall₂ (Effect.Renamed apart old new) effects effects') :
    KeepsEffects apart old new (.ok effects) (.ok effects') := by
  rintro _ ⟨⟩ _
  exact ⟨effects', rfl, renamed⟩

theorem orRefuse {outcome outcome' : Except Cause (List Effect)}
    (keeps : KeepsEffects apart old new outcome outcome')
    (accepted : (Effect.orRefuse outcome).any Effect.isRefusal = false) :
    List.Forall₂ (Effect.Renamed apart old new) (Effect.orRefuse outcome)
      (Effect.orRefuse outcome') := by
  cases outcome with
  | error cause => cases accepted
  | ok effects =>
      rcases keeps effects rfl accepted with ⟨effects', rfl, renamed⟩
      exact renamed

end KeepsEffects

/-! ## Bindings -/

/-- Two bindings of one name, to values of which the one is a renaming of the other. -/
structure Binding.Renamed (apart : Prop) (old new : String) (binding binding' : Binding) : Prop where
  name : binding.name = binding'.name
  value : Renames apart old new false binding.value binding'.value

theorem Renames.binding? {part part' : List Token} (renames : Renames apart old new false part part') :
    Option.Rel (Binding.Renamed apart old new) (binding? part) (Template.binding? part') := by
  match part with
  | [] =>
      rw [renames.eq_nil]
      exact .none
  | [name] =>
      rcases renames.exists_cons with ⟨name', rest', rfl⟩
      cases renames.behind.eq_nil
      exact .none
  | name :: equals :: value =>
      rcases renames.exists_cons with ⟨name', _, rfl⟩
      rcases renames.behind.exists_cons with ⟨equals', value', rfl⟩
      have others := renames.behind.behind
      rw [Template.binding?, Template.binding?, ← renames.behind.first_alike.isSign_eq,
        ← others.isEmpty_eq, ← Token.word?_eq_of_lexeme renames.first_lexeme]
      split
      · rename_i isBinding
        rw [Token.isSign_eq_false (Bool.and_eq_true_iff.mp isBinding).1 (by decide)] at others
        cases name.word? with
        | none => exact .none
        | some word => exact .some ⟨rfl, others⟩
      · exact .none

theorem Renames.singleton_binding? {part part' : List Token}
    (renames : Renames apart old new false part part') :
    Option.Rel (List.Forall₂ (Binding.Renamed apart old new)) ((Template.binding? part).map ([·]))
      ((Template.binding? part').map ([·])) := by
  have binding := renames.binding?
  revert binding
  generalize Template.binding? part = found
  generalize Template.binding? part' = found'
  intro binding
  cases binding with
  | none => exact .none
  | some renamed => exact .some (.cons renamed .nil)

theorem Renames.parameter? {part part' : List Token}
    (renames : Renames apart old new false part part') :
    Option.Rel (List.Forall₂ (Binding.Renamed apart old new)) (parameter? part)
      (Template.parameter? part') := by
  match part with
  | [] =>
      rw [renames.eq_nil]
      exact .some .nil
  | [name] =>
      rcases renames.exists_cons with ⟨name', rest', rfl⟩
      cases renames.behind.eq_nil
      rw [Template.parameter?, Template.parameter?, ← Token.word?_eq_of_lexeme renames.first_lexeme]
      cases name.word? with
      | none => exact .none
      | some word => exact .some (.cons ⟨rfl, .nil _⟩ .nil)
  | name :: second :: value =>
      rcases renames.exists_cons with ⟨name', _, rfl⟩
      rcases renames.behind.exists_cons with ⟨second', value', rfl⟩
      exact renames.singleton_binding?

/-- The values of bindings are read renamed, and the names that are bound are the same. -/
theorem readBindings_renamed {item? : List Token → Option (List Binding)} (refusal : Cause)
    (expression expression' : Expression) {parts parts' : List (List Token)}
    (renames : List.Forall₂ (Renames apart old new false) parts parts')
    (item : ∀ {part part' : List Token}, Renames apart old new false part part' →
      Option.Rel (List.Forall₂ (Binding.Renamed apart old new)) (item? part) (item? part')) :
    List.Forall₂ (Effect.Renamed apart old new) (readBindings item? refusal expression parts).1
        (readBindings item? refusal expression' parts').1 ∧
      (readBindings item? refusal expression parts).2 =
        (readBindings item? refusal expression' parts').2 := by
  have reads {found found' : List Binding}
      (bindings : List.Forall₂ (Binding.Renamed apart old new) found found') :
      List.Forall₂ (Effect.Renamed apart old new)
        ((found.filter (!·.value.isEmpty)).map
          fun bound => .read (expression.part bound.value) .plain)
        ((found'.filter (!·.value.isEmpty)).map
          fun bound => .read (expression'.part bound.value) .plain) := by
    induction bindings with
    | nil => exact .nil
    | cons first _ ih =>
        rw [List.filter_cons, List.filter_cons, first.value.isEmpty_eq]
        split
        · exact .cons (.read .plain (first.value.part expression expression')) ih
        · exact ih
  have names {found found' : List Binding}
      (bindings : List.Forall₂ (Binding.Renamed apart old new) found found') :
      found.map (·.name) = found'.map (·.name) := by
    induction bindings with
    | nil => rfl
    | cons first _ ih => rw [List.map_cons, List.map_cons, first.name, ih]
  induction renames with
  | nil => exact ⟨.nil, rfl⟩
  | @cons part part' parts parts' first _ ih =>
      have here := item first
      rw [readBindings, readBindings]
      revert here
      generalize item? part = found
      generalize item? part' = found'
      intro here
      cases here with
      | none => exact ⟨.nil, rfl⟩
      | some bindings =>
          dsimp only
          rw [ih.2, names bindings]
          exact ⟨List.rel_append (reads bindings) ih.1, rfl⟩

theorem readParameters_renamed (expression expression' : Expression) {tokens renamed : List Token}
    (renames : Renames apart old new false tokens renamed) :
    List.Forall₂ (Effect.Renamed apart old new) (readParameters expression tokens).1
        (readParameters expression' renamed).1 ∧
      (readParameters expression tokens).2 = (readParameters expression' renamed).2 := by
  have within := renames.withinRound?
  rw [readParameters, readParameters]
  revert within
  generalize withinRound? tokens = inner
  generalize withinRound? renamed = inner'
  intro within
  cases within with
  | none => exact ⟨.nil, rfl⟩
  | some inside => exact readBindings_renamed _ _ _ inside.commaParts Renames.parameter?

/-! ## The tags -/

variable {text text' : List Char}

/-- The reads of a loop over the names: what it iterates over, and its filter. -/
def loopReads (expression : Expression) (names : List String) (range : List Token) :
    Except Cause (List Effect) := do
  let (iterable, filter) :=
    match findTopLevel? (·.isWord "if") 0 range with
    | some condition =>
      (range.take condition, [Effect.read (expression.part (range.drop (condition + 1))) .test])
    | none => (range, [])
  if iterable.isEmpty then throw .loopWithoutIterable
  return .read (expression.part iterable) .plain :: .enter .loop names :: filter

theorem loopEffects_eq (text : List Char) : loopEffects text = (do
    let expression ← Expression.ofText text
    let some position := findTopLevel? (·.isWord "in") 0 expression.tokens
      | throw .loopWithoutIn
    let some names := targetNames? (expression.tokens.take position)
      | throw .invalidLoopTarget
    loopReads expression names (loopRange (expression.tokens.drop (position + 1)))) :=
  rfl

theorem loopReads_renamed (noIf : old ≠ "if" ∧ new ≠ "if") {expression expression' : Expression}
    {whole whole' range range' : List Token} (isLeft : IsLeft whole range)
    (isLeft' : IsLeft whole' range') (renames : Renames apart old new false whole whole')
    (names : List String) :
    KeepsEffects apart old new (loopReads expression names range)
      (loopReads expression' names range') := by
  have sameIf : findTopLevel? (·.isWord "if") 0 range' = findTopLevel? (·.isWord "if") 0 range := by
    rw [← isLeft.findTopLevel?_if, ← isLeft'.findTopLevel?_if,
      renames.findTopLevel?_eq fun alike => alike.isWord_eq noIf.1 noIf.2]
  rw [loopReads, loopReads, sameIf]
  cases found : findTopLevel? (·.isWord "if") 0 range with
  | none =>
      dsimp only
      rw [← isLeft.isEmpty_eq, ← isLeft'.isEmpty_eq, ← renames.isEmpty_eq]
      split
      · exact .error _ _
      · exact .ok (.cons (.read .plain ⟨_, _, isLeft, isLeft', renames⟩) (.cons (.same _) .nil))
  | some condition =>
      dsimp only
      rcases isLeft.split_if found with ⟨sameFront, behind⟩
      rcases isLeft'.split_if (sameIf.trans found) with ⟨sameFront', behind'⟩
      have fronts := renames.take condition
      have others := renames.drop_findTopLevel? (fun token isIf =>
        Token.isSign_of_isWord isIf ".") ((isLeft.findTopLevel?_if 0).trans found)
      rw [sameFront, sameFront'] at fronts
      rw [← fronts.isEmpty_eq]
      split
      · exact .error _ _
      · exact .ok (.cons (.read .plain (fronts.part expression expression')) (.cons (.same _)
          (.cons (.read .test ⟨_, _, behind, behind', others⟩) .nil)))

theorem loopEffects_renamed (noIf : old ≠ "if" ∧ new ≠ "if")
    (renames : RenamesText apart old new text text') :
    KeepsEffects apart old new (loopEffects text) (loopEffects text') := by
  rw [loopEffects_eq, loopEffects_eq]
  apply KeepsEffects.ofText renames
  intro expression expression' renames
  cases isPosition : findTopLevel? (·.isWord "in") 0 expression.tokens with
  | none => exact .error _ _
  | some position =>
      dsimp only
      cases areNames : targetNames? (expression.tokens.take position) with
      | none => exact .error _ _
      | some names =>
          -- No point stands among the targets, so that the first `in` is the same one.
          have sameIn : findTopLevel? (·.isWord "in") 0 expression'.tokens = some position :=
            renames.findTopLevel?_of_noPoint
              (fun lexeme => by rw [Token.isWord, Token.isWord, lexeme]) isPosition
              (noPoint_of_targetNames? areNames)
          have behind := renames.drop_findTopLevel? (fun token isIn =>
            Token.isSign_of_isWord isIn ".") isPosition
          rcases behind.loopRange with ⟨whole, whole', isLeft, isLeft', between⟩
          rw [sameIn]
          dsimp only
          rw [← (renames.take position).targetNames?_eq, areNames]
          exact loopReads_renamed noIf isLeft isLeft' between names

theorem blockEffects_renamed (renames : RenamesText apart old new text text') :
    KeepsEffects apart old new (blockEffects text) (blockEffects text') := by
  apply KeepsEffects.ofText renames
  intro expression expression' renames
  generalize expression.tokens = tokens at renames
  generalize expression'.tokens = tokens' at renames
  cases tokens with
  | nil => exact .error _ _
  | cons first modifiers =>
      rcases renames.exists_cons with ⟨first', modifiers', rfl⟩
      have others := renames.behind
      dsimp only
      rw [← Token.word?_eq_of_lexeme renames.first_lexeme]
      cases isWord : first.word? with
      | none => exact .error _ _
      | some name =>
          rw [Token.isSign_of_word? isWord] at others
          dsimp only
          split
          · rename_i each
            have each' := others.all_of_noPoint
              (fun lexeme => by rw [Token.isWord, Token.isWord, Token.isWord, Token.isWord, lexeme])
              (fun token isModifier => by
                rcases Bool.or_eq_true_iff.mp isModifier with isScoped | isRequired
                · exact Token.isSign_of_isWord isScoped "."
                · exact Token.isSign_of_isWord isRequired ".") each
            rw [if_pos each']
            exact .ok (Effect.forall₂_renamed_same _)
          · exact .error _ _

theorem testEffects_renamed (before : List Effect) (renames : RenamesText apart old new text text')
    (accepted : (testEffects before text).any Effect.isRefusal = false) :
    List.Forall₂ (Effect.Renamed apart old new) (testEffects before text)
      (testEffects before text') := by
  rw [testEffects, List.any_append, Bool.or_eq_false_iff] at accepted
  rw [testEffects, testEffects]
  apply List.rel_append (Effect.forall₂_renamed_same before)
  apply KeepsEffects.orRefuse _ accepted.2
  apply KeepsEffects.ofText renames
  intro expression expression' renames
  rw [← renames.isEmpty_eq]
  split
  · exact .error _ _
  · exact .ok (.cons (.test ⟨_, _, Or.inl rfl, Or.inl rfl, renames⟩) .nil)

theorem setEffects_renamed (renames : RenamesText apart old new text text') :
    KeepsEffects apart old new (setEffects text) (setEffects text') := by
  apply KeepsEffects.ofText renames
  intro expression expression' renames
  rw [← renames.findTopLevel?_eq fun alike => alike.isSign_eq "="]
  cases isPosition : findTopLevel? (·.isSign "=") 0 expression.tokens with
  | some position =>
      have value := renames.drop_findTopLevel?
        (fun token isEquals => Token.isSign_eq_false isEquals (by decide)) isPosition
      have targets := renames.take position
      dsimp only
      rw [← value.isEmpty_eq, ← targets.any_eq fun alike => alike.isSign_eq ".",
        ← targets.targetNames?_eq]
      split
      · exact .error _ _
      · exact .ok (.cons (.read .plain (value.part expression expression'))
          (Effect.forall₂_renamed_same _))
  | none =>
      have kept {token token' : Token} (alike : Token.Alike old new token token') :
          (!token.isSign "|") = !token'.isSign "|" := by
        rw [alike.isSign_eq]
      have targets := renames.takeWhile kept
      have filters := renames.dropWhile kept fun token isBar =>
        Token.word?_of_isSign (by simpa using isBar : token.isSign "|" = true)
      dsimp only
      rw [List.span_eq_takeWhile_dropWhile, List.span_eq_takeWhile_dropWhile]
      dsimp only
      rw [← targets.targetNames?_eq, ← filters.isEmpty_eq]
      split
      · apply KeepsEffects.ok
        apply List.rel_append _ (Effect.forall₂_renamed_same _)
        split
        · exact .nil
        · exact .cons (.read .plain (filters.part expression expression')) .nil
      · exact .error _ _

/-- The reads of a list of bindings, and what is done with its names. -/
def bindingEffects (found : List Effect × Except Cause (List String))
    (accepted : List String → List Effect) : Except Cause (List Effect) :=
  match found with
  | (reads, .ok names) => pure (reads ++ accepted names)
  | (reads, .error cause) => pure (reads ++ [.refuse cause])

theorem bindingEffects_renamed {found found' : List Effect × Except Cause (List String)}
    {accepted accepted' : List String → List Effect}
    (renamed : List.Forall₂ (Effect.Renamed apart old new) found.1 found'.1 ∧ found.2 = found'.2)
    (each : ∀ names, List.Forall₂ (Effect.Renamed apart old new) (accepted names)
      (accepted' names)) :
    KeepsEffects apart old new (bindingEffects found accepted) (bindingEffects found' accepted') := by
  rcases found with ⟨reads, outcome⟩
  rcases found' with ⟨reads', outcome'⟩
  rcases renamed with ⟨renamed, rfl⟩
  cases outcome with
  | ok names => exact .ok (List.rel_append renamed (each names))
  | error cause => exact .ok (List.rel_append renamed (Effect.forall₂_renamed_same _))

theorem macroEffects_renamed (renames : RenamesText apart old new text text') :
    KeepsEffects apart old new (macroEffects text) (macroEffects text') := by
  apply KeepsEffects.ofText renames
  intro expression expression' renames
  cases isTokens : expression.tokens with
  | nil => exact .error _ _
  | cons first parameters =>
      rw [isTokens] at renames
      rcases renames.exists_cons with ⟨first', parameters', isTokens'⟩
      rw [isTokens'] at renames ⊢
      have others := renames.behind
      dsimp only
      rw [← Token.word?_eq_of_lexeme renames.first_lexeme]
      cases isWord : first.word? with
      | none => exact .error _ _
      | some name =>
          rw [Token.isSign_of_word? isWord] at others
          exact bindingEffects_renamed (readParameters_renamed expression expression' others)
            fun names => Effect.forall₂_renamed_same [.bind [name], .enter .macroBody names]

theorem invoke_renamed {expression expression' : Expression} {invocation invocation' : List Token}
    (renames : Renames apart old new false invocation invocation') (names : List String) :
    List.Forall₂ (Effect.Renamed apart old new) (callEffects.invoke expression invocation names)
      (callEffects.invoke expression' invocation' names) := by
  rw [callEffects.invoke, callEffects.invoke, ← renames.isEmpty_eq]
  split
  · exact Effect.forall₂_renamed_same _
  · exact .cons (.read .plain (renames.part expression expression')) (.cons (.same _) .nil)

theorem callEffects_renamed (renames : RenamesText apart old new text text') :
    KeepsEffects apart old new (callEffects text) (callEffects text') := by
  apply KeepsEffects.ofText renames
  intro expression expression' renames
  rw [← renames.head?_isSign_eq]
  split
  · exact bindingEffects_renamed (readParameters_renamed expression expression' renames.group)
      (invoke_renamed renames.afterGroup)
  · exact .ok (invoke_renamed renames [])

theorem withEffects_renamed (renames : RenamesText apart old new text text') :
    KeepsEffects apart old new (withEffects text) (withEffects text') := by
  apply KeepsEffects.ofText renames
  intro expression expression' renames
  rw [← renames.isEmpty_eq]
  split
  · exact .ok (Effect.forall₂_renamed_same _)
  · exact bindingEffects_renamed
      (readBindings_renamed .invalidBinding expression expression' renames.commaParts
        Renames.singleton_binding?)
      fun names => Effect.forall₂_renamed_same [.enter .bindings names]

theorem filterEffects_renamed (renames : RenamesText apart old new text text') :
    KeepsEffects apart old new (filterEffects text) (filterEffects text') := by
  apply KeepsEffects.ofText renames
  intro expression expression' renames
  rw [← renames.head?_any_eq Token.Alike.isSome_word?_eq]
  split
  · exact .ok (.cons (.read .filter ⟨_, _, Or.inl rfl, Or.inl rfl, renames⟩) (.cons (.same _) .nil))
  · exact .error _ _

theorem autoescapeEffects_renamed (renames : RenamesText apart old new text text') :
    KeepsEffects apart old new (autoescapeEffects text) (autoescapeEffects text') := by
  apply KeepsEffects.ofText renames
  intro expression expression' renames
  exact .ok (.cons (.read .plain ⟨_, _, Or.inl rfl, Or.inl rfl, renames⟩) (.cons (.same _) .nil))

theorem includeEffects_renamed (renames : RenamesText apart old new text text') :
    KeepsEffects apart old new (includeEffects text) (includeEffects text') := by
  apply KeepsEffects.ofText renames
  intro expression expression' renames
  rcases renames.withoutModifiers.exists_whole with ⟨whole, whole', isLeft, isLeft', between⟩
  dsimp only
  rw [← isLeft.isEmpty_eq, ← isLeft'.isEmpty_eq, ← between.isEmpty_eq]
  split
  · exact .error _ _
  · exact .ok (.cons (.read .plain ⟨_, _, isLeft, isLeft', between⟩) .nil)

/-- What is left of an import ends in a word, and the word in front of it is no attribute. -/
theorem LeftAlike.renames_of_alias {template left' : List Token} {word alias_ : Token}
    {name : String} (alike : LeftAlike apart old new (template ++ [word, alias_]) left')
    (isName : alias_.word? = some name) (noAttribute : word.word? ≠ some old) :
    Renames apart old new false (template ++ [word, alias_]) left' := by
  have last {front rest : List Token} {token other : Token}
      (same : front ++ [token] = rest ++ [other]) : front = rest ∧ token = other := by
    rcases List.append_inj' same rfl with ⟨sameFront, sameLast⟩
    exact ⟨sameFront, List.head_eq_of_cons_eq sameLast⟩
  cases alike with
  | renames renames => exact renames
  | endsInAttribute _ ends _ =>
      rcases ends.left with same | ⟨_, same⟩
      · rw [List.append_cons, List.append_cons _ _ [_, _], List.append_cons _ _ [_]] at same
        rcases last (last same).1 with ⟨_, rfl⟩
        exact absurd ends.isName noAttribute
      · rw [List.append_cons] at same
        rcases last same with ⟨_, rfl⟩
        cases (Token.word?_of_isSign ends.isPoint).symm.trans isName

theorem importEffects_renamed (noAs : old ≠ "as") (renames : RenamesText apart old new text text') :
    KeepsEffects apart old new (importEffects text) (importEffects text') := by
  apply KeepsEffects.ofText renames
  intro expression expression' renames
  have alike := renames.withoutModifiers
  generalize withoutModifiers expression.tokens = left at alike
  generalize withoutModifiers expression'.tokens = left' at alike
  split
  · rename_i alias_ word template isLeft
    rw [List.reverse_eq_iff, List.reverse_cons, List.reverse_cons, List.append_assoc,
      List.singleton_append] at isLeft
    subst isLeft
    split
    · rename_i name isName
      split
      · rename_i isAlias
        rw [Bool.and_eq_true] at isAlias
        have isAs := isAlias.1
        rw [Token.isWord, beq_iff_eq, ← Token.word?_eq_some_iff] at isAs
        have noAttribute : word.word? ≠ some old := by
          rw [isAs, Ne, Option.some.injEq]
          exact noAs.symm
        have whole := alike.renames_of_alias isName noAttribute
        rcases whole.exists_append with ⟨front', _, rfl, fronts, behind⟩
        rcases behind.exists_cons with ⟨word', _, rfl⟩
        rcases behind.behind.exists_cons with ⟨alias', rest', rfl⟩
        cases behind.behind.behind.eq_nil
        have last := behind.behind
        rw [Token.isSign_of_isWord isAlias.1] at last
        have sameWord : word'.isWord "as" = true := by
          cases behind.first_alike with
          | same lexeme =>
              rw [Token.isWord, ← lexeme]
              exact isAlias.1
          | changed isOld _ => exact absurd isOld noAttribute
        have isName' : alias'.word? = some name := by
          rw [← Token.word?_eq_of_lexeme last.first_lexeme, isName]
        have filled : (!front'.reverse.isEmpty) = true := by
          rw [List.isEmpty_reverse, ← fronts.isEmpty_eq, List.isEmpty_reverse]
          exact isAlias.2
        have reversed : (front' ++ [word', alias']).reverse = alias' :: word' :: front'.reverse := by
          simp
        rw [reversed]
        dsimp only
        rw [isName']
        dsimp only
        rw [if_pos (Bool.and_eq_true_iff.mpr ⟨sameWord, filled⟩), List.reverse_reverse]
        exact .ok (.cons (.read .plain (fronts.part expression expression')) (.cons (.same _) .nil))
      · exact .error _ _
    · exact .error _ _
  · exact .error _ _

/-- What is left of an import has no point behind its keyword, so that no attribute is taken for a
modifier. -/
theorem LeftAlike.renames_of_noPoint {left left' : List Token} {keyword : String}
    (alike : LeftAlike apart old new left left') (noKeyword : old ≠ keyword)
    (noModifier : keyword ∉ modifierWords) {position : Nat}
    (found : findTopLevel? (·.isWord keyword) 0 left = some position)
    (noPoint : ∀ token ∈ left.drop (position + 1), token.isSign "." = false) :
    Renames apart old new false left left' := by
  have inFront {front rest : List Token} (none : ∀ token ∈ rest, token.isWord keyword = false)
      (whole : left = front ++ rest) : position < front.length := by
    rcases exists_of_findTopLevel? found with ⟨token, isToken, isKeyword⟩
    rw [← Nat.not_le]
    intro behind
    rw [whole, List.getElem?_append_right behind] at isToken
    rw [none token (List.mem_of_getElem? isToken)] at isKeyword
    cases isKeyword
  have notPoint {front rest : List Token} {point : Token} (isPoint : point.isSign "." = true)
      (none : ∀ token ∈ point :: rest, token.isWord keyword = false)
      (whole : left = front ++ point :: rest) : False := by
    have before := inFront none whole
    rw [whole, List.drop_append_of_le_length before] at noPoint
    rw [noPoint point (List.mem_append_right _ List.mem_cons_self)] at isPoint
    cases isPoint
  cases alike with
  | renames renames => exact renames
  | @endsInAttribute front front' _ _ point _ first _ second _ _ ends _ =>
      have pointIsNone := Token.isWord_of_isSign ends.isPoint keyword
      rcases ends.left with whole | ⟨_, whole⟩
      · refine (notPoint ends.isPoint ?_ whole).elim
        rcases ends.isModifier with ⟨word, isModifier, isWord⟩
        rw [List.forall_mem_cons, List.forall_mem_cons, List.forall_mem_singleton,
          Token.isWord_of_word? ends.isName, Token.isWord_of_word? isWord, beq_eq_false_iff_ne,
          beq_eq_false_iff_ne]
        refine ⟨pointIsNone, noKeyword, ?_⟩
        rintro rfl
        exact noModifier isModifier
      · exact (notPoint ends.isPoint (List.forall_mem_singleton.mpr pointIsNone) whole).elim

theorem fromEffects_renamed (noImport : old ≠ "import" ∧ new ≠ "import")
    (renames : RenamesText apart old new text text') :
    KeepsEffects apart old new (fromEffects text) (fromEffects text') := by
  apply KeepsEffects.ofText renames
  intro expression expression' renames
  have alike := renames.withoutModifiers
  dsimp only
  generalize withoutModifiers expression.tokens = left at alike
  generalize withoutModifiers expression'.tokens = left' at alike
  cases found : findTopLevel? (·.isWord "import") 0 left with
  | none => exact .error _ _
  | some position =>
      dsimp only
      split
      · exact .error _ _
      · rename_i notFirst
        cases imported : (commaParts (left.drop (position + 1))).mapM importedName? with
        | none =>
            rintro _ ⟨⟩ accepted
            cases accepted
        | some names =>
            have noPoint := noPoint_of_commaParts imported fun part name => noPoint_of_importedName?
            have whole := alike.renames_of_noPoint noImport.1 (by decide) found noPoint
            have names' := whole.drop_findTopLevel?
              (fun token isImport => Token.isSign_of_isWord isImport ".") found
            have each := mapM_eq_of_forall₂ names'.commaParts Renames.importedName?_eq
            rw [← whole.findTopLevel?_eq fun alike => alike.isWord_eq noImport.1 noImport.2, found]
            dsimp only
            rw [if_neg notFirst, ← each, imported]
            exact .ok (.cons (.read .plain ((whole.take position).part expression expression'))
              (.cons (.same _) .nil))

/-- The names are not the keywords for which the tag looks. -/
structure SparesKeywords (old new tag : String) : Prop where
  noIf : old ≠ "if" ∧ new ≠ "if"
  noAs : tag = "import" → old ≠ "as"
  noImport : tag = "from" → old ≠ "import" ∧ new ≠ "import"

/-- A tag that is accepted has the same effects when an attribute in it has another name.  The tags
`extends` and `endblock` are left out, since they keep the text of their argument. -/
theorem ofTag_renamed {body body' : List Char} (sameTag : tagName body' = tagName body)
    (spares : SparesKeywords old new (tagName body))
    (noExtends : tagName body ≠ "extends") (noEndBlock : tagName body ≠ "endblock")
    (renames : RenamesText apart old new (tagArgument body) (tagArgument body'))
    (accepted : (Effect.ofTag body).any Effect.isRefusal = false) :
    List.Forall₂ (Effect.Renamed apart old new) (Effect.ofTag body) (Effect.ofTag body') := by
  have noIf := spares.noIf
  revert accepted spares noExtends noEndBlock
  unfold Effect.ofTag
  rw [sameTag]
  generalize tagName body = name
  dsimp only
  intro spares noExtends noEndBlock accepted
  have unchanged (effects : List Effect) :
      List.Forall₂ (Effect.Renamed apart old new) effects effects :=
    Effect.forall₂_renamed_same effects
  split at accepted
  · cases accepted
  · exact absurd rfl noExtends
  · exact (blockEffects_renamed renames).orRefuse accepted
  · exact absurd rfl noEndBlock
  · exact testEffects_renamed _ renames accepted
  · exact testEffects_renamed _ renames accepted
  · exact unchanged _
  · exact (loopEffects_renamed noIf renames).orRefuse accepted
  · exact (setEffects_renamed renames).orRefuse accepted
  · exact (macroEffects_renamed renames).orRefuse accepted
  · exact (callEffects_renamed renames).orRefuse accepted
  · exact (filterEffects_renamed renames).orRefuse accepted
  · exact (withEffects_renamed renames).orRefuse accepted
  · exact (autoescapeEffects_renamed renames).orRefuse accepted
  · exact (includeEffects_renamed renames).orRefuse accepted
  · exact (importEffects_renamed (spares.noAs rfl) renames).orRefuse accepted
  · exact (fromEffects_renamed (spares.noImport rfl) renames).orRefuse accepted
  · exact unchanged _
  · exact unchanged _
  · exact unchanged _
  · exact unchanged _
  · exact unchanged _
  · exact unchanged _
  · exact unchanged _
  · exact unchanged _
  · cases accepted
  · cases accepted

theorem ofOutput_renamed {body body' : List Char} (filled : body' ≠ [])
    (renames : RenamesText apart old new body body')
    (accepted : (Effect.ofOutput body).any Effect.isRefusal = false) :
    List.Forall₂ (Effect.Renamed apart old new) (Effect.ofOutput body) (Effect.ofOutput body') := by
  have notEmpty : body'.isEmpty = false := by simpa using filled
  rw [Effect.ofOutput, Effect.ofOutput, notEmpty]
  rw [Effect.ofOutput] at accepted
  cases isEmpty : body.isEmpty with
  | true =>
      rw [isEmpty] at accepted
      cases accepted
  | false =>
      rw [isEmpty] at accepted
      refine KeepsEffects.orRefuse (KeepsEffects.ofText renames ?_) accepted
      intro expression expression' renames
      exact .ok (.cons (.read .plain ⟨_, _, Or.inl rfl, Or.inl rfl, renames⟩) .nil)

end Effects

end Lineage.Template

