import Lineage.Template.Effect

/-!
# Which tags have which effects

Any tag may read expressions and bind names, and any tag may be refused.  Every other effect belongs
to tags of certain names (`Effect.belongsTo`): only an `extends` tag names a parent, a block is
opened only where it is defined, and each structure is opened, branched and closed by its own tags.
-/

namespace Lineage.Template

open Lineage.Text

/-- Whether a tag of the given name may have the effect. -/
def Effect.belongsTo (name : String) : Effect → Bool
  | .refuse _ | .read _ _ | .bind _ => true
  | .test _ => name == "if" || name == "elif"
  | .expectBranch => name == "elif"
  | .otherwise => name == "else"
  | .extend _ => name == "extends"
  | .define _ => name == "block"
  | .enter opened _ => opened.kind != .block && name == opened.kind.keyword
  | .leaveBlock _ => name == "endblock"
  | .leave kind => kind != .block && name == "end" ++ kind.keyword

/-- A tag of the given name may have all the effects. -/
def MayHave (name : String) (effects : List Effect) : Prop :=
  ∀ effect ∈ effects, effect.belongsTo name = true

variable {name : String}

theorem MayHave.nil : MayHave name [] :=
  fun _ member => nomatch member

theorem MayHave.cons {effect : Effect} {effects : List Effect}
    (belongs : effect.belongsTo name = true) (belong : MayHave name effects) :
    MayHave name (effect :: effects) := by
  intro other member
  rcases List.mem_cons.mp member with rfl | later
  · exact belongs
  · exact belong other later

theorem MayHave.singleton {effect : Effect} (belongs : effect.belongsTo name = true) :
    MayHave name [effect] :=
  .cons belongs .nil

theorem MayHave.append {first second : List Effect} (one : MayHave name first)
    (other : MayHave name second) : MayHave name (first ++ second) := by
  intro effect member
  exact (List.mem_append.mp member).elim (one effect) (other effect)

theorem mayHave_readBindings (name : String) (item? : List Token → Option (List Binding))
    (refusal : Cause) (expression : Expression) (parts : List (List Token)) :
    MayHave name (readBindings item? refusal expression parts).1 := by
  induction parts with
  | nil => exact .nil
  | cons part parts ih =>
      rw [readBindings]
      split
      · exact .nil
      · apply MayHave.append _ ih
        intro effect member
        obtain ⟨_, _, rfl⟩ := List.mem_map.mp member
        rfl

/-- A tag of the given name may have all the effects that are accepted. -/
def MayAccept (name : String) (outcome : Except Cause (List Effect)) : Prop :=
  ∀ effects, outcome = .ok effects → MayHave name effects

namespace MayAccept

theorem bind {α : Type} {outcome : Except Cause α} {next : α → Except Cause (List Effect)}
    (accept : ∀ value, MayAccept name (next value)) : MayAccept name (outcome >>= next) := by
  intro effects accepted
  cases outcome with
  | error cause => cases accepted
  | ok value => exact accept value effects accepted

theorem error (cause : Cause) : MayAccept name (.error cause) :=
  fun _ accepted => nomatch accepted

theorem ok {effects : List Effect} (belong : MayHave name effects) :
    MayAccept name (.ok effects) := by
  rintro _ ⟨⟩
  exact belong

theorem orRefuse {outcome : Except Cause (List Effect)} (accept : MayAccept name outcome) :
    MayHave name (Effect.orRefuse outcome) := by
  cases outcome with
  | error cause => exact .singleton rfl
  | ok effects => exact accept effects rfl

end MayAccept

/-! ## The tags -/

theorem mayHave_testEffects {before : List Effect} (belong : MayHave name before)
    (conditional : (name == "if" || name == "elif") = true) (text : List Char) :
    MayHave name (testEffects before text) := by
  apply belong.append
  apply MayAccept.orRefuse
  apply MayAccept.bind
  intro expression
  split
  · exact MayAccept.error _
  · exact MayAccept.ok (.singleton conditional)

theorem mayAccept_extendsEffects (text : List Char) :
    MayAccept "extends" (extendsEffects text) := by
  apply MayAccept.bind
  intro expression
  split
  · exact MayAccept.error _
  · exact MayAccept.ok (.singleton rfl)

theorem mayAccept_blockEffects (text : List Char) : MayAccept "block" (blockEffects text) := by
  apply MayAccept.bind
  intro expression
  split
  · exact MayAccept.error _
  · split
    · split
      · exact MayAccept.ok (.singleton rfl)
      · exact MayAccept.error _
    · exact MayAccept.error _

theorem mayAccept_loopEffects (text : List Char) : MayAccept "for" (loopEffects text) := by
  apply MayAccept.bind
  intro expression
  split
  · split
    · dsimp only
      split
      · -- The range has a filter.
        split
        all_goals
          split
          · exact MayAccept.error _
          · exact MayAccept.ok (.cons rfl (.cons rfl (.singleton rfl)))
      · split
        all_goals
          split
          · exact MayAccept.error _
          · exact MayAccept.ok (.cons rfl (.singleton rfl))
    · exact MayAccept.error _
  · exact MayAccept.error _

theorem mayAccept_setEffects (text : List Char) : MayAccept "set" (setEffects text) := by
  apply MayAccept.bind
  intro expression
  split
  · dsimp only
    split
    · exact MayAccept.error _
    · apply MayAccept.ok
      apply MayHave.cons rfl
      split
      · exact .nil
      · split <;> exact .singleton rfl
  · dsimp only
    split
    · apply MayAccept.ok
      apply MayHave.append
      · split
        · exact .nil
        · exact .singleton rfl
      · exact .singleton rfl
    · exact MayAccept.error _

theorem mayHave_readParameters (name : String) (expression : Expression) (tokens : List Token) :
    MayHave name (readParameters expression tokens).1 := by
  unfold readParameters
  split
  · exact .nil
  · exact mayHave_readBindings name _ _ _ _

theorem mayAccept_macroEffects (text : List Char) : MayAccept "macro" (macroEffects text) := by
  apply MayAccept.bind
  intro expression
  split
  · exact MayAccept.error _
  · rename_i first parameters _
    have reads := mayHave_readParameters "macro" expression parameters
    split
    · split
      · rename_i found
        rw [found] at reads
        exact MayAccept.ok (reads.append (.cons rfl (.singleton rfl)))
      · rename_i found
        rw [found] at reads
        exact MayAccept.ok (reads.append (.singleton rfl))
    · exact MayAccept.error _

theorem mayHave_invoke (expression : Expression) (invocation : List Token)
    (names : List String) : MayHave "call" (callEffects.invoke expression invocation names) := by
  unfold callEffects.invoke
  split
  · exact .singleton rfl
  · exact .cons rfl (.singleton rfl)

theorem mayAccept_callEffects (text : List Char) : MayAccept "call" (callEffects text) := by
  apply MayAccept.bind
  intro expression
  split
  · have reads := mayHave_readParameters "call" expression (group expression.tokens)
    split
    · rename_i found
      rw [found] at reads
      exact MayAccept.ok (reads.append (mayHave_invoke _ _ _))
    · rename_i found
      rw [found] at reads
      exact MayAccept.ok (reads.append (.singleton rfl))
  · exact MayAccept.ok (mayHave_invoke _ _ _)

theorem mayAccept_filterEffects (text : List Char) : MayAccept "filter" (filterEffects text) := by
  apply MayAccept.bind
  intro expression
  split
  · exact MayAccept.ok (.cons rfl (.singleton rfl))
  · exact MayAccept.error _

theorem mayAccept_withEffects (text : List Char) : MayAccept "with" (withEffects text) := by
  apply MayAccept.bind
  intro expression
  split
  · exact MayAccept.ok (.singleton rfl)
  · have reads := mayHave_readBindings "with" (fun part => (binding? part).map ([·]))
      .invalidBinding expression (commaParts expression.tokens)
    split
    · rename_i found
      rw [found] at reads
      exact MayAccept.ok (reads.append (.singleton rfl))
    · rename_i found
      rw [found] at reads
      exact MayAccept.ok (reads.append (.singleton rfl))

theorem mayAccept_autoescapeEffects (text : List Char) :
    MayAccept "autoescape" (autoescapeEffects text) := by
  apply MayAccept.bind
  intro expression
  exact MayAccept.ok (.cons rfl (.singleton rfl))

theorem mayAccept_includeEffects (text : List Char) :
    MayAccept "include" (includeEffects text) := by
  apply MayAccept.bind
  intro expression
  dsimp only
  split
  · exact MayAccept.error _
  · exact MayAccept.ok (.singleton rfl)

theorem mayAccept_importEffects (text : List Char) : MayAccept "import" (importEffects text) := by
  apply MayAccept.bind
  intro expression
  split
  · split
    · split
      · exact MayAccept.ok (.cons rfl (.singleton rfl))
      · exact MayAccept.error _
    · exact MayAccept.error _
  · exact MayAccept.error _

theorem mayAccept_fromEffects (text : List Char) : MayAccept "from" (fromEffects text) := by
  apply MayAccept.bind
  intro expression
  dsimp only
  split
  · split
    · exact MayAccept.error _
    · exact MayAccept.ok (.cons rfl (.singleton (by split <;> rfl)))
  · exact MayAccept.error _

/-- A tag has only effects that belong to tags of its name. -/
theorem mayHave_ofTag (body : List Char) : MayHave (tagName body) (Effect.ofTag body) := by
  unfold Effect.ofTag
  generalize tagName body = name
  dsimp only
  split
  · exact .singleton rfl
  · exact (mayAccept_extendsEffects _).orRefuse
  · exact (mayAccept_blockEffects _).orRefuse
  · exact .singleton rfl
  · exact mayHave_testEffects (.singleton rfl) rfl _
  · exact mayHave_testEffects (.singleton rfl) rfl _
  · exact .singleton rfl
  · exact (mayAccept_loopEffects _).orRefuse
  · exact (mayAccept_setEffects _).orRefuse
  · exact (mayAccept_macroEffects _).orRefuse
  · exact (mayAccept_callEffects _).orRefuse
  · exact (mayAccept_filterEffects _).orRefuse
  · exact (mayAccept_withEffects _).orRefuse
  · exact (mayAccept_autoescapeEffects _).orRefuse
  · exact (mayAccept_includeEffects _).orRefuse
  · exact (mayAccept_importEffects _).orRefuse
  · exact (mayAccept_fromEffects _).orRefuse
  · exact .singleton rfl
  · exact .singleton rfl
  · exact .singleton rfl
  · exact .singleton rfl
  · exact .singleton rfl
  · exact .singleton rfl
  · exact .singleton rfl
  · exact .singleton rfl
  · exact .singleton rfl
  · exact .singleton rfl

/-- A test stands directly behind the effect in front of it. -/
theorem testEffects_of_mem {opening : Effect} {expression : Expression} {text : List Char}
    (member : .test expression ∈ testEffects [opening] text)
    (other : opening ≠ .test expression) :
    testEffects [opening] text = [opening, .test expression] := by
  have later : .test expression ∈ Effect.orRefuse (do
      let expression ← Expression.ofText text
      if expression.tokens.isEmpty then throw .conditionExpected
      return [.test expression]) := by
    rcases List.mem_append.mp member with first | later
    · exact absurd (List.mem_singleton.mp first).symm other
    · exact later
  unfold testEffects
  cases found : Expression.ofText text with
  | error cause =>
      rw [found] at later
      cases later with
      | tail _ none => cases none
  | ok tested =>
      rw [found] at later
      cases empty : tested.tokens.isEmpty with
      | true =>
          simp only [Bind.bind, Except.bind, empty, if_true] at later
          cases later with
          | tail _ none => cases none
      | false =>
          simp only [Bind.bind, Except.bind, empty, Bool.false_eq_true, if_false] at later ⊢
          cases later with
          | head => rfl
          | tail _ none => cases none

theorem ofTag_if {body : List Char} (named : tagName body = "if") :
    Effect.ofTag body = testEffects [.enter (.conditional [] false) []] (tagArgument body) := by
  simp only [Effect.ofTag, named]

theorem ofTag_elif {body : List Char} (named : tagName body = "elif") :
    Effect.ofTag body = testEffects [.expectBranch] (tagArgument body) := by
  simp only [Effect.ofTag, named]

theorem ofTag_for {body : List Char} (named : tagName body = "for") :
    Effect.ofTag body = Effect.orRefuse (loopEffects (tagArgument body)) := by
  simp only [Effect.ofTag, named]

/-- A test stands in a tag directly behind the effect that opens or asks for its condition. -/
theorem ofTag_of_test_mem {body : List Char} {expression : Expression}
    (member : .test expression ∈ Effect.ofTag body) : ∃ opening : Effect,
      Effect.ofTag body = [opening, .test expression] ∧
        (opening = .enter (.conditional [] false) [] ∨ opening = .expectBranch) := by
  have belongs := mayHave_ofTag body _ member
  simp only [Effect.belongsTo, Bool.or_eq_true, beq_iff_eq] at belongs
  rcases belongs with named | named
  · rw [ofTag_if named] at member ⊢
    exact ⟨_, testEffects_of_mem member (by simp), Or.inl rfl⟩
  · rw [ofTag_elif named] at member ⊢
    exact ⟨_, testEffects_of_mem member (by simp), Or.inr rfl⟩

/-- An output has only effects that any tag may have. -/
theorem mayHave_ofOutput (name : String) (body : List Char) :
    MayHave name (Effect.ofOutput body) := by
  unfold Effect.ofOutput
  split
  · exact .singleton rfl
  · apply MayAccept.orRefuse
    apply MayAccept.bind
    intro expression
    exact MayAccept.ok (.singleton rfl)

end Lineage.Template
