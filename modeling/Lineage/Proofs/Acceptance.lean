import Lineage.Proofs.Nesting
import Lineage.Proofs.Outcomes
import Lineage.Samples

/-!
# When a template is accepted

The effects of a tag have the mark of the tag, if none of them is a refusal (`marks_ofTag`), and an
effect that takes place turns the open structures as its mark says (`Outline.runs_of_apply`).
Besides the structures around it an effect needs little (`Outline.Permits`): it is no refusal, a
block that it defines has a new name, it names no second parent, and a block is open if it calls
`super()`.  What it needs given, it takes place exactly if its mark fits the open structures
(`Outline.Permits.exists_apply_iff`).  By induction the same holds of the effects of a tag and of
the segments of a template.
-/

namespace Lineage.Template

open Lineage.Text

/-! ## The marks of effects -/

/-- The shape of an open structure. -/
def Opened.shape : Opened → Shape
  | .block name => .block name
  | .conditional _ inElse => .conditional inElse
  | opened => .plain opened.kind

namespace Opened

variable {opened : Opened}

@[simp]
theorem kind_shape (opened : Opened) : opened.shape.kind = opened.kind := by
  cases opened <;> rfl

theorem shape_eq_conditional_iff {inElse : Bool} :
    opened.shape = .conditional inElse ↔ ∃ tested, opened = .conditional tested inElse := by
  cases opened <;> simp [shape]

theorem shape_eq_loop_iff : opened.shape = .plain .loop ↔ opened = .loop := by
  cases opened <;> simp [shape, kind]

/-- A structure of the kind is a block with a name. -/
theorem exists_of_kind_eq_block (isBlock : opened.kind = .block) :
    ∃ name, opened = .block name := by
  cases opened with
  | block name => exact ⟨name, rfl⟩
  | _ => cases isBlock

end Opened

namespace Effect

/-- The mark of an effect. -/
def mark? : Effect → Option Mark
  | .expectBranch => some .elif
  | .otherwise => some .otherwise
  | .define block => some (.begins (.block block))
  | .enter opened _ => some (.begins opened.shape)
  | .leaveBlock name => some (.endsBlock name)
  | .leave kind => some (.ends kind)
  | _ => none

/-- Whether the effect reads an expression that calls `super()`. -/
def callsSuper : Effect → Bool
  | .read expression _ => expression.callsSuper
  | .test expression => expression.callsSuper
  | _ => false

/-- Whether the effect names a parent. -/
def isExtend : Effect → Bool
  | .extend _ => true
  | _ => false

/-- Whether a tag is refused for what it is by itself. -/
def isRefusal : Effect → Bool
  | .refuse _ => true
  | _ => false

end Effect

theorem filterMap_cons_eq {α β : Type} (f : α → Option β) (first : α) (others : List α) :
    (first :: others).filterMap f = (f first).toList ++ others.filterMap f := by
  cases found : f first with
  | none => rw [List.filterMap_cons_none found, Option.toList_none, List.nil_append]
  | some value => rw [List.filterMap_cons_some found, Option.toList_some, List.singleton_append]

/-- The effects of a segment. -/
def Segment.effects : Segment → List Effect
  | .output body _ => Effect.ofOutput body
  | .tag body _ => Effect.ofTag body
  | _ => []

/-- The effects that are accepted, if none of them is a refusal, have the marks. -/
def HasMarks (outcome : Except Cause (List Effect)) (marks : List Mark) : Prop :=
  ∀ effects, outcome = .ok effects → effects.any Effect.isRefusal = false →
    effects.filterMap Effect.mark? = marks

namespace HasMarks

variable {marks : List Mark}

theorem bind {α : Type} {outcome : Except Cause α} {next : α → Except Cause (List Effect)}
    (each : ∀ value, outcome = .ok value → HasMarks (next value) marks) :
    HasMarks (outcome >>= next) marks := by
  intro effects accepted
  cases outcome with
  | error cause => cases accepted
  | ok value => exact each value rfl effects accepted

theorem error (cause : Cause) : HasMarks (.error cause) marks :=
  fun _ accepted => nomatch accepted

theorem ok {effects : List Effect} (marked : effects.filterMap Effect.mark? = marks) :
    HasMarks (.ok effects) marks := by
  rintro _ ⟨⟩ _
  exact marked

/-- Effects in front of which a refusal stands are not accepted. -/
theorem refused {effects : List Effect} (refuses : effects.any Effect.isRefusal = true) :
    HasMarks (.ok effects) marks := by
  rintro _ ⟨⟩ accepted
  rw [refuses] at accepted
  cases accepted

theorem orRefuse {outcome : Except Cause (List Effect)} (each : HasMarks outcome marks)
    (accepted : (Effect.orRefuse outcome).any Effect.isRefusal = false) :
    (Effect.orRefuse outcome).filterMap Effect.mark? = marks := by
  cases outcome with
  | error cause => cases accepted
  | ok effects => exact each effects rfl accepted

end HasMarks

theorem marks_readBindings (item? : List Token → Option (List Binding)) (refusal : Cause)
    (expression : Expression) (parts : List (List Token)) :
    (readBindings item? refusal expression parts).1.filterMap Effect.mark? = [] := by
  induction parts with
  | nil => rfl
  | cons part parts ih =>
      rw [readBindings]
      split
      · rfl
      · simp only [List.filterMap_append, ih, List.append_nil, List.filterMap_map]
        exact List.filterMap_eq_nil_iff.mpr fun _ _ => rfl

theorem marks_readParameters (expression : Expression) (tokens : List Token) :
    (readParameters expression tokens).1.filterMap Effect.mark? = [] := by
  unfold readParameters
  split
  · rfl
  · exact marks_readBindings _ _ _ _

/-! ### The tags -/

theorem hasMarks_extendsEffects (text : List Char) : HasMarks (extendsEffects text) [] := by
  apply HasMarks.bind
  intro expression _
  split
  · exact .error _
  · exact .ok rfl

theorem hasMarks_blockEffects (text : List Char) :
    HasMarks (blockEffects text) (Mark.ofTag? "block" text).toList := by
  apply HasMarks.bind
  intro expression found
  have name : blockName? text = expression.tokens.head?.bind Token.word? := by
    rw [blockName?, found]
    rfl
  simp only [Mark.ofTag?, name]
  split
  · exact .error _
  · rename_i first modifiers tokens
    rw [tokens]
    split
    · rename_i word isWord
      split
      · apply HasMarks.ok
        simp [isWord, Effect.mark?]
      · exact .error _
    · exact .error _

theorem hasMarks_loopEffects (text : List Char) :
    HasMarks (loopEffects text) [.begins (.plain .loop)] := by
  apply HasMarks.bind
  intro expression _
  split
  · split
    · dsimp only
      split
      · -- The range has a filter.
        split
        all_goals
          split
          · exact .error _
          · exact .ok rfl
      · split
        all_goals
          split
          · exact .error _
          · exact .ok rfl
    · exact .error _
  · exact .error _

/-- A `set` tag opens a structure if it has no equals sign outside brackets. -/
theorem hasMarks_setEffects (text : List Char) :
    HasMarks (setEffects text) (Mark.ofTag? "set" text).toList := by
  apply HasMarks.bind
  intro expression found
  have assigns : assignsValue text =
      (findTopLevel? (·.isSign "=") 0 expression.tokens).isSome := by
    rw [assignsValue, found]
    rfl
  simp only [Mark.ofTag?, assigns]
  split
  · rename_i position isFirst
    rw [isFirst]
    split
    · exact .error _
    · split
      · exact .ok rfl
      · split
        · exact .ok rfl
        · exact .refused rfl
  · rename_i isNone
    rw [isNone]
    split
    · apply HasMarks.ok
      split <;> rfl
    · exact .error _

theorem hasMarks_macroEffects (text : List Char) :
    HasMarks (macroEffects text) [.begins (.plain .macroBody)] := by
  apply HasMarks.bind
  intro expression _
  split
  · exact .error _
  · rename_i first parameters _
    have reads := marks_readParameters expression parameters
    split
    · split
      · rename_i found
        rw [found] at reads
        apply HasMarks.ok
        rw [List.filterMap_append, reads]
        rfl
      · exact .refused (by simp [Effect.isRefusal])
    · exact .error _

theorem hasMarks_invoke (expression : Expression) (reads : List Effect) (invocation : List Token)
    (names : List String) (unmarked : reads.filterMap Effect.mark? = []) :
    HasMarks (.ok (reads ++ callEffects.invoke expression invocation names))
      [.begins (.plain .callBody)] := by
  unfold callEffects.invoke
  split
  · exact .refused (by simp [Effect.isRefusal])
  · apply HasMarks.ok
    rw [List.filterMap_append, unmarked]
    rfl

theorem hasMarks_callEffects (text : List Char) :
    HasMarks (callEffects text) [.begins (.plain .callBody)] := by
  apply HasMarks.bind
  intro expression _
  split
  · have reads := marks_readParameters expression (group expression.tokens)
    split
    · rename_i found
      rw [found] at reads
      exact hasMarks_invoke _ _ _ _ reads
    · exact .refused (by simp [Effect.isRefusal])
  · exact hasMarks_invoke expression [] _ _ rfl

theorem hasMarks_filterEffects (text : List Char) :
    HasMarks (filterEffects text) [.begins (.plain .filterBody)] := by
  apply HasMarks.bind
  intro expression _
  split
  · exact .ok rfl
  · exact .error _

theorem hasMarks_withEffects (text : List Char) :
    HasMarks (withEffects text) [.begins (.plain .bindings)] := by
  apply HasMarks.bind
  intro expression _
  split
  · exact .ok rfl
  · have reads := marks_readBindings (fun part => (binding? part).map ([·])) .invalidBinding
      expression (commaParts expression.tokens)
    split
    · rename_i found
      rw [found] at reads
      apply HasMarks.ok
      rw [List.filterMap_append, reads]
      rfl
    · exact .refused (by simp [Effect.isRefusal])

theorem hasMarks_autoescapeEffects (text : List Char) :
    HasMarks (autoescapeEffects text) [.begins (.plain .autoescape)] := by
  apply HasMarks.bind
  intro expression _
  exact .ok rfl

theorem hasMarks_includeEffects (text : List Char) : HasMarks (includeEffects text) [] := by
  apply HasMarks.bind
  intro expression _
  dsimp only
  split
  · exact .error _
  · exact .ok rfl

theorem hasMarks_importEffects (text : List Char) : HasMarks (importEffects text) [] := by
  apply HasMarks.bind
  intro expression _
  split
  · split
    · split
      · exact .ok rfl
      · exact .error _
    · exact .error _
  · exact .error _

theorem hasMarks_fromEffects (text : List Char) : HasMarks (fromEffects text) [] := by
  apply HasMarks.bind
  intro expression _
  dsimp only
  split
  · split
    · exact .error _
    · apply HasMarks.ok
      split <;> rfl
  · exact .error _

theorem marks_testEffects {before : List Effect} {marks : List Mark} (text : List Char)
    (marked : before.filterMap Effect.mark? = marks)
    (accepted : (testEffects before text).any Effect.isRefusal = false) :
    (testEffects before text).filterMap Effect.mark? = marks := by
  rw [testEffects, List.any_append, Bool.or_eq_false_iff] at accepted
  have test : HasMarks (do
      let expression ← Expression.ofText text
      if expression.tokens.isEmpty then throw .conditionExpected
      return [.test expression]) [] := by
    apply HasMarks.bind
    intro expression _
    split
    · exact .error _
    · exact .ok rfl
  rw [testEffects, List.filterMap_append, marked, test.orRefuse accepted.2, List.append_nil]

/-- The effects of a tag that is accepted by itself have the mark of the tag. -/
theorem marks_ofTag {body : List Char}
    (accepted : (Effect.ofTag body).any Effect.isRefusal = false) :
    (Effect.ofTag body).filterMap Effect.mark? =
      (Mark.ofTag? (tagName body) (tagArgument body)).toList := by
  revert accepted
  unfold Effect.ofTag
  generalize tagName body = name
  dsimp only
  intro accepted
  split at accepted
  · cases accepted
  · exact (hasMarks_extendsEffects _).orRefuse accepted
  · exact (hasMarks_blockEffects _).orRefuse accepted
  · rfl
  · exact marks_testEffects _ rfl accepted
  · exact marks_testEffects _ rfl accepted
  · rfl
  · exact (hasMarks_loopEffects _).orRefuse accepted
  · exact (hasMarks_setEffects _).orRefuse accepted
  · exact (hasMarks_macroEffects _).orRefuse accepted
  · exact (hasMarks_callEffects _).orRefuse accepted
  · exact (hasMarks_filterEffects _).orRefuse accepted
  · exact (hasMarks_withEffects _).orRefuse accepted
  · exact (hasMarks_autoescapeEffects _).orRefuse accepted
  · exact (hasMarks_includeEffects _).orRefuse accepted
  · exact (hasMarks_importEffects _).orRefuse accepted
  · exact (hasMarks_fromEffects _).orRefuse accepted
  · rfl
  · rfl
  · rfl
  · rfl
  · rfl
  · rfl
  · rfl
  · rfl
  · cases accepted
  · cases accepted

theorem marks_ofOutput {body : List Char}
    (accepted : (Effect.ofOutput body).any Effect.isRefusal = false) :
    (Effect.ofOutput body).filterMap Effect.mark? = [] := by
  revert accepted
  unfold Effect.ofOutput
  split
  · intro accepted
    cases accepted
  · apply HasMarks.orRefuse
    apply HasMarks.bind
    intro expression _
    exact .ok rfl

/-- Whether a segment is accepted for what it is by itself. -/
def Segment.isAccepted (part : Segment) : Bool :=
  !part.effects.any Effect.isRefusal

/-- The effects of a segment that is accepted by itself have the mark of the segment. -/
theorem Segment.marks_effects {part : Segment} (accepted : part.isAccepted = true) :
    part.effects.filterMap Effect.mark? = part.mark?.toList := by
  rw [isAccepted, Bool.not_eq_true'] at accepted
  cases part with
  | text run line => rfl
  | output body line => exact marks_ofOutput accepted
  | tag body line => exact marks_ofTag accepted
  | comment body line => rfl

/-! ## Open structures -/

namespace Outline

variable {outline after : Outline} {line : Nat}

/-- The shapes of the open structures, innermost first. -/
def shapes (outline : Outline) : List Shape :=
  outline.frames.map (·.opened.shape)

theorem shapes_bind (outline : Outline) (line : Nat) (names : List String) :
    (outline.bind line names).shapes = outline.shapes := by
  have kept : ∀ {frames bound : List Frame}, bindInnermost? names frames = some bound →
      bound.map (·.opened.shape) = frames.map (·.opened.shape) := by
    intro frames bound binds
    induction frames generalizing bound with
    | nil => cases binds
    | cons frame frames ih =>
        rw [bindInnermost?] at binds
        split at binds
        · cases binds
          rfl
        · obtain ⟨inner, isInner, rfl⟩ := Option.map_eq_some_iff.mp binds
          rw [List.map_cons, List.map_cons, ih isInner]
  unfold bind
  split
  · rename_i frames binds
    exact kept binds
  · rfl

theorem shapes_release (outline : Outline) (line : Nat) (opened : Opened) :
    (outline.release line opened).shapes = outline.shapes := by
  cases opened with
  | capture names => exact shapes_bind outline line names
  | _ => rfl

theorem shapes_read {expression : Expression} {context : Context}
    (done : outline.read line expression context = .ok after) : after.shapes = outline.shapes := by
  rcases read_eq_ok_iff.mp done with ⟨_, rfl⟩ | ⟨_, block, _, rfl⟩
  · rfl
  · rfl

theorem shapes_test {expression : Expression}
    (done : outline.test line expression = .ok after) : after.shapes = outline.shapes := by
  obtain ⟨middle, isRead, rfl⟩ := test_eq_ok_iff.mp done
  rw [← shapes_read isRead]
  simp only [shapes, retest]
  split
  · rename_i isOpen
    rw [isOpen]
    rfl
  · rfl

theorem exists_leave_iff {kind : Structure} {shapes : List Shape} :
    (∃ after, outline.leave line kind = .ok after ∧ after.shapes = shapes) ↔
      (Mark.ends kind).Turns outline.shapes shapes := by
  rw [Mark.turns_ends_iff]
  constructor
  · rintro ⟨_, done, rfl⟩
    obtain ⟨frame, frames, isOpen, isKind, rfl⟩ := leave_eq_ok_iff.mp done
    refine ⟨frame.opened.shape, ?_, frame.opened.kind_shape.trans isKind⟩
    rw [shapes_release]
    simp only [Outline.shapes, isOpen, List.map_cons]
  · rintro ⟨shape, isOpen, isKind⟩
    obtain ⟨frame, frames, isFrames, rfl, rfl⟩ := List.map_eq_cons_iff.mp isOpen
    rw [Opened.kind_shape] at isKind
    exact ⟨_, leave_eq_ok_iff.mpr ⟨frame, frames, isFrames, isKind, rfl⟩, shapes_release _ _ _⟩

theorem exists_leaveBlock_iff {given : String} {shapes : List Shape} :
    (∃ after, outline.leaveBlock line given = .ok after ∧ after.shapes = shapes) ↔
      (Mark.endsBlock given).Turns outline.shapes shapes := by
  simp only [leaveBlock_eq_ok_iff, and_assoc, exists_and_left, exists_leave_iff,
    Mark.turns_ends_iff, Mark.turns_endsBlock_iff]
  constructor
  · rintro ⟨named, shape, isOpen, isBlock⟩
    obtain ⟨⟨opened, begun, names⟩, frames, isFrames, rfl, rfl⟩ := List.map_eq_cons_iff.mp isOpen
    rw [Opened.kind_shape] at isBlock
    obtain ⟨name, rfl⟩ := Opened.exists_of_kind_eq_block isBlock
    refine ⟨name, isOpen, named name ?_⟩
    rw [isFrames]
    rfl
  · rintro ⟨name, isOpen, named⟩
    refine ⟨?_, _, isOpen, rfl⟩
    obtain ⟨⟨opened, begun, names⟩, frames, isFrames, isName, rfl⟩ := List.map_eq_cons_iff.mp isOpen
    obtain ⟨block, rfl⟩ := Opened.exists_of_kind_eq_block
      ((opened.kind_shape).symm.trans (congrArg Shape.kind isName))
    cases isName
    intro block isBlock
    rw [isFrames] at isBlock
    cases isBlock
    exact named

theorem exists_expectBranch_iff {shapes : List Shape} :
    (∃ after, outline.expectBranch = .ok after ∧ after.shapes = shapes) ↔
      Mark.elif.Turns outline.shapes shapes := by
  have isCondition : (∃ tested, outline.frames.head?.map Frame.opened =
      some (.conditional tested false)) ↔ outline.shapes.head? = some (.conditional false) := by
    rw [Outline.shapes, List.head?_map]
    cases outline.frames.head? with
    | none => simp
    | some frame => simp [Opened.shape_eq_conditional_iff]
  simp only [expectBranch_eq_ok_iff, and_assoc, exists_eq_left, isCondition, Mark.turns_elif_iff]
  rw [and_comm, eq_comm]

theorem exists_otherwise_iff {shapes : List Shape} :
    (∃ after, outline.otherwise = .ok after ∧ after.shapes = shapes) ↔
      Mark.otherwise.Turns outline.shapes shapes := by
  have isLoop : outline.frames.head?.map Frame.opened = some .loop ↔
      outline.shapes.head? = some (.plain .loop) := by
    rw [Outline.shapes, List.head?_map]
    cases outline.frames.head? with
    | none => simp
    | some frame => simp [Opened.shape_eq_loop_iff]
  simp only [Mark.turns_otherwise_iff, otherwise_eq_ok_iff, isLoop]
  constructor
  · rintro ⟨_, ⟨tested, begun, names, frames, isOpen, rfl⟩ | ⟨loop, rfl⟩, rfl⟩
    · refine Or.inl ⟨frames.map (·.opened.shape), ?_, rfl⟩
      rw [Outline.shapes, isOpen]
      rfl
    · exact Or.inr ⟨rfl, loop⟩
  · rintro (⟨outer, isOpen, rfl⟩ | ⟨rfl, loop⟩)
    · obtain ⟨⟨opened, begun, names⟩, frames, isFrames, isShape, rfl⟩ :=
        List.map_eq_cons_iff.mp isOpen
      obtain ⟨tested, rfl⟩ := Opened.shape_eq_conditional_iff.mp isShape
      exact ⟨_, Or.inl ⟨tested, begun, names, frames, isFrames, rfl⟩, rfl⟩
    · exact ⟨outline, Or.inr ⟨loop, rfl⟩, rfl⟩

theorem shapes_extend {expression : Expression}
    (done : outline.extend line expression = .ok after) : after.shapes = outline.shapes := by
  rcases extend_eq_ok_iff.mp done with ⟨_, rfl⟩ | ⟨_, _, rfl⟩
  · rfl
  · rfl

/-- An effect turns the open structures as its mark says. -/
theorem runs_of_apply {effect : Effect} (done : outline.apply line effect = .ok after) :
    Mark.Runs effect.mark?.toList outline.shapes after.shapes := by
  have unmarked (kept : after.shapes = outline.shapes) :
      Mark.Runs [] outline.shapes after.shapes := Mark.runs_nil_iff.mpr kept
  have marked {mark : Mark} (turns : mark.Turns outline.shapes after.shapes) :
      Mark.Runs [mark] outline.shapes after.shapes := .cons turns (.nil _)
  cases effect with
  | refuse cause => cases done
  | read expression context => exact unmarked (shapes_read done)
  | test expression => exact unmarked (shapes_test done)
  | expectBranch => exact marked (exists_expectBranch_iff.mp ⟨after, done, rfl⟩)
  | otherwise => exact marked (exists_otherwise_iff.mp ⟨after, done, rfl⟩)
  | extend expression => exact unmarked (shapes_extend done)
  | define block =>
      obtain ⟨_, rfl⟩ := define_eq_ok_iff.mp done
      exact marked (.begins (.block block) _)
  | enter opened names =>
      cases done
      exact marked (.begins opened.shape _)
  | leaveBlock name => exact marked (exists_leaveBlock_iff.mp ⟨after, done, rfl⟩)
  | leave kind => exact marked (exists_leave_iff.mp ⟨after, done, rfl⟩)
  | bind names =>
      cases done
      exact unmarked (shapes_bind outline line names)

theorem runs_of_foldlM {effects : List Effect}
    (done : effects.foldlM (fun current effect => current.apply line effect) outline = .ok after) :
    Mark.Runs (effects.filterMap Effect.mark?) outline.shapes after.shapes := by
  induction effects generalizing outline with
  | nil =>
      cases done
      exact .nil _
  | cons effect effects ih =>
      obtain ⟨middle, first, others⟩ := foldlM_cons_eq_ok_iff.mp done
      rw [filterMap_cons_eq, Mark.runs_append_iff]
      exact ⟨middle.shapes, runs_of_apply first, ih others⟩

/-- What an effect needs besides the structures around it. -/
structure Permits (outline : Outline) (effect : Effect) : Prop where
  accepted : effect.isRefusal = false
  /-- A block that it defines has a new name. -/
  new : ∀ name, effect.defined? = some name → name ∉ blockNames outline.nodes
  /-- It names no second parent. -/
  single : effect.isExtend = true → namesParent outline.nodes = false
  /-- A block is open if it calls `super()`. -/
  inBlock : effect.callsSuper = true → 0 < Mark.openBlocks outline.shapes

theorem isSome_innermostBlock? (isOpen : 0 < Mark.openBlocks outline.shapes) :
    ∃ block, outline.innermostBlock? = some block := by
  rw [Mark.openBlocks, List.countP_pos_iff] at isOpen
  obtain ⟨shape, member, isBlock⟩ := isOpen
  obtain ⟨⟨opened, begun, names⟩, isFrame, rfl⟩ := List.mem_map.mp member
  rw [beq_iff_eq, Opened.kind_shape] at isBlock
  obtain ⟨name, rfl⟩ := Opened.exists_of_kind_eq_block isBlock
  apply Option.isSome_iff_exists.mp
  rw [innermostBlock?, List.isSome_findSome?]
  exact List.any_eq_true.mpr ⟨⟨.block name, begun, names⟩, isFrame, rfl⟩

theorem exists_read {expression : Expression} {context : Context}
    (inBlock : expression.callsSuper = true → 0 < Mark.openBlocks outline.shapes) :
    ∃ after, outline.read line expression context = .ok after := by
  cases calls : expression.callsSuper with
  | false => exact ⟨_, read_eq_ok_iff.mpr (Or.inl ⟨calls, rfl⟩)⟩
  | true =>
      obtain ⟨block, innermost⟩ := isSome_innermostBlock? (inBlock calls)
      exact ⟨_, read_eq_ok_iff.mpr (Or.inr ⟨calls, block, innermost, rfl⟩)⟩

theorem exists_test {expression : Expression}
    (inBlock : expression.callsSuper = true → 0 < Mark.openBlocks outline.shapes) :
    ∃ after, outline.test line expression = .ok after := by
  obtain ⟨middle, isRead⟩ : ∃ middle, outline.read line expression .test = .ok middle :=
    exists_read inBlock
  exact ⟨_, test_eq_ok_iff.mpr ⟨middle, isRead, rfl⟩⟩

/-- An effect that is permitted takes place if its mark fits the open structures, and turns them as
its mark says. -/
theorem Permits.exists_apply_iff {effect : Effect} {shapes : List Shape}
    (permits : outline.Permits effect) :
    (∃ after, outline.apply line effect = .ok after ∧ after.shapes = shapes) ↔
      Mark.Runs effect.mark?.toList outline.shapes shapes := by
  constructor
  · rintro ⟨after, done, rfl⟩
    exact runs_of_apply done
  intro runs
  have unmarked (bare : effect.mark? = none)
      (always : ∃ after, outline.apply line effect = .ok after) :
      ∃ after, outline.apply line effect = .ok after ∧ after.shapes = shapes := by
    obtain ⟨after, done⟩ := always
    have turned := runs_of_apply done
    rw [bare] at turned runs
    exact ⟨after, done, (Mark.runs_nil_iff.mp turned).trans (Mark.runs_nil_iff.mp runs).symm⟩
  have marked {mark : Mark} (isMark : effect.mark? = some mark) :
      mark.Turns outline.shapes shapes := by
    rw [isMark] at runs
    simpa [Mark.runs_cons_iff, Mark.runs_nil_iff] using runs
  cases effect with
  | refuse cause => cases permits.accepted
  | read expression context => exact unmarked rfl (exists_read permits.inBlock)
  | test expression => exact unmarked rfl (exists_test permits.inBlock)
  | expectBranch => exact exists_expectBranch_iff.mpr (marked rfl)
  | otherwise => exact exists_otherwise_iff.mpr (marked rfl)
  | extend expression =>
      exact unmarked rfl ⟨_, extend_eq_ok_iff.mpr (Or.inl ⟨permits.single rfl, rfl⟩)⟩
  | define block =>
      refine ⟨_, define_eq_ok_iff.mpr ⟨permits.new block rfl, rfl⟩, ?_⟩
      exact (Mark.turns_begins_iff.mp (marked rfl)).symm
  | enter opened names => exact ⟨_, rfl, (Mark.turns_begins_iff.mp (marked rfl)).symm⟩
  | leaveBlock name => exact exists_leaveBlock_iff.mpr (marked rfl)
  | leave kind => exact exists_leave_iff.mpr (marked rfl)
  | bind names => exact unmarked rfl ⟨_, rfl⟩

/-! ## Effects one after another -/

/-- What effects one after another need besides the structures around them. -/
structure Admits (outline : Outline) (effects : List Effect) : Prop where
  accepted : effects.any Effect.isRefusal = false
  distinct : (blockNames outline.nodes ++ effects.filterMap Effect.defined?).Nodup
  single : (namesParent outline.nodes).toNat + effects.countP Effect.isExtend ≤ 1
  inBlock : ∀ before effect later shapes, effects = before ++ effect :: later →
    effect.callsSuper = true →
    Mark.Runs (before.filterMap Effect.mark?) outline.shapes shapes → 0 < Mark.openBlocks shapes

namespace Admits

variable {effect : Effect} {effects rest : List Effect}

theorem permits (admits : outline.Admits (effect :: effects)) : outline.Permits effect where
  accepted := by
    have accepted := admits.accepted
    rw [List.any_cons, Bool.or_eq_false_iff] at accepted
    exact accepted.1
  new name defines taken := by
    have distinct := admits.distinct
    rw [List.filterMap_cons_some defines] at distinct
    exact (List.nodup_append.mp distinct).2.2 name taken name List.mem_cons_self rfl
  single isExtend := by
    have single := admits.single
    rw [List.countP_cons_of_pos isExtend] at single
    rw [← Bool.not_eq_true]
    intro named
    rw [named, Bool.toNat_true] at single
    omega
  inBlock calls := admits.inBlock [] effect effects _ rfl calls (.nil _)

/-- What effects need is still there after the first of them. -/
theorem after_apply (admits : outline.Admits (effect :: effects))
    (done : outline.apply line effect = .ok after) : after.Admits effects where
  accepted := by
    have accepted := admits.accepted
    rw [List.any_cons, Bool.or_eq_false_iff] at accepted
    exact accepted.2
  distinct := by
    have distinct := admits.distinct
    rw [filterMap_cons_eq, ← List.append_assoc] at distinct
    rwa [(blockNames_apply done).1]
  single := by
    have single := admits.single
    cases isExtend : effect.isExtend with
    | true =>
        rw [List.countP_cons_of_pos isExtend] at single
        have bound := (namesParent after.nodes).toNat_le
        omega
    | false =>
        rw [List.countP_cons_of_neg (by simp [isExtend])] at single
        rw [namesParent_apply_of_ne _ done]
        · exact single
        · rintro expression rfl
          cases isExtend
  inBlock before other later shapes whole calls runs := by
    have turned : Mark.Runs effect.mark?.toList outline.shapes after.shapes :=
      admits.permits.exists_apply_iff.mp ⟨after, done, rfl⟩
    apply admits.inBlock (effect :: before) other later shapes (by rw [whole]; rfl) calls
    rw [filterMap_cons_eq, Mark.runs_append_iff]
    exact ⟨after.shapes, turned, runs⟩

/-- Nodes that define no block and name no parent are of no account. -/
theorem add {nodes : List Node} (admits : outline.Admits effects) (noBlock : blockNames nodes = [])
    (nameless : namesParent nodes = false) : (outline.add nodes).Admits effects where
  accepted := admits.accepted
  distinct := by
    rw [Outline.add, blockNames_append, noBlock, List.append_nil]
    exact admits.distinct
  single := by
    rw [Outline.add, namesParent_append, nameless, Bool.or_false]
    exact admits.single
  inBlock := admits.inBlock

theorem after_foldlM (admits : outline.Admits (effects ++ rest))
    (done : effects.foldlM (fun current effect => current.apply line effect) outline = .ok after) :
    after.Admits rest := by
  induction effects generalizing outline with
  | nil =>
      cases done
      exact admits
  | cons effect effects ih =>
      obtain ⟨middle, first, others⟩ := foldlM_cons_eq_ok_iff.mp done
      exact ih (admits.after_apply first) others

/-- Effects that are admitted take place if their marks run on the open structures. -/
theorem exists_foldlM_iff {shapes : List Shape} (admits : outline.Admits (effects ++ rest)) :
    (∃ after, effects.foldlM (fun current effect => current.apply line effect) outline = .ok after ∧
      after.shapes = shapes) ↔
        Mark.Runs (effects.filterMap Effect.mark?) outline.shapes shapes := by
  constructor
  · rintro ⟨after, done, rfl⟩
    exact runs_of_foldlM done
  intro runs
  induction effects generalizing outline with
  | nil => exact ⟨outline, rfl, (Mark.runs_nil_iff.mp runs).symm⟩
  | cons effect effects ih =>
      rw [List.cons_append] at admits
      rw [filterMap_cons_eq, Mark.runs_append_iff] at runs
      obtain ⟨_, turns, runs⟩ := runs
      obtain ⟨middle, first, rfl⟩ := admits.permits.exists_apply_iff.mpr turns
      obtain ⟨after, others, isShapes⟩ := ih (admits.after_apply first) runs
      exact ⟨after, foldlM_cons_eq_ok_iff.mpr ⟨middle, first, others⟩, isShapes⟩

end Admits

/-! ## Segments -/

/-- A segment adds the node of its text, if it is one, and has its effects. -/
theorem exists_segment_eq (part : Segment) : ∃ line nodes, blockNames nodes = [] ∧
    namesParent nodes = false ∧
    ∀ outline : Outline, outline.segment part = (outline.add nodes).applyAll line part.effects := by
  have unchanged : ∀ outline : Outline, outline.add [] = outline := by
    intro outline
    rw [add, List.append_nil]
  cases part with
  | text run line => exact ⟨line, [.text (byteLength run) line], rfl, rfl, fun _ => rfl⟩
  | output body line =>
      refine ⟨line, [], rfl, rfl, fun outline => ?_⟩
      rw [unchanged]
      rfl
  | tag body line =>
      refine ⟨line, [], rfl, rfl, fun outline => ?_⟩
      rw [unchanged]
      rfl
  | comment body line =>
      refine ⟨line, [], rfl, rfl, fun outline => ?_⟩
      rw [unchanged]
      rfl

/-- A segment that is accepted anywhere is accepted by itself. -/
theorem isAccepted_of_segment {part : Segment} (done : outline.segment part = .ok after) :
    part.isAccepted = true := by
  obtain ⟨line, nodes, _, _, isSegment⟩ := exists_segment_eq part
  rw [isSegment, applyAll_eq_ok_iff] at done
  rw [Segment.isAccepted, Bool.not_eq_true']
  generalize outline.add nodes = start at done
  generalize part.effects = effects at done ⊢
  induction effects generalizing start with
  | nil => rfl
  | cons effect effects ih =>
      obtain ⟨middle, first, others⟩ := foldlM_cons_eq_ok_iff.mp done
      rw [List.any_cons, ih middle others, Bool.or_false]
      cases effect with
      | refuse cause => cases first
      | _ => rfl

theorem runs_of_segment {part : Segment} (done : outline.segment part = .ok after) :
    Mark.Runs part.mark?.toList outline.shapes after.shapes := by
  rw [← part.marks_effects (isAccepted_of_segment done)]
  obtain ⟨line, nodes, _, _, isSegment⟩ := exists_segment_eq part
  rw [isSegment, applyAll_eq_ok_iff] at done
  have runs := runs_of_foldlM done
  exact runs

/-- Segments that are accepted turn the open structures as their marks say. -/
theorem runs_of_segments {parts : List Segment} (done : outline.segments parts = .ok after) :
    Mark.Runs (parts.filterMap Segment.mark?) outline.shapes after.shapes := by
  induction parts generalizing outline with
  | nil =>
      cases done
      exact .nil _
  | cons part parts ih =>
      obtain ⟨middle, first, others⟩ := foldlM_cons_eq_ok_iff.mp done
      rw [filterMap_cons_eq, Mark.runs_append_iff]
      exact ⟨middle.shapes, runs_of_segment first, ih others⟩

/-- Segments whose effects are admitted are accepted if their marks run on the open structures. -/
theorem Admits.exists_segments_iff {parts : List Segment} {shapes : List Shape}
    (admits : outline.Admits (parts.flatMap Segment.effects)) :
    (∃ after, outline.segments parts = .ok after ∧ after.shapes = shapes) ↔
      Mark.Runs ((parts.flatMap Segment.effects).filterMap Effect.mark?) outline.shapes shapes := by
  induction parts generalizing outline with
  | nil =>
      rw [List.flatMap_nil, List.filterMap_nil, Mark.runs_nil_iff]
      constructor
      · rintro ⟨_, ⟨⟩, rfl⟩
        rfl
      · rintro rfl
        exact ⟨outline, rfl, rfl⟩
  | cons part parts ih =>
      obtain ⟨line, nodes, noBlock, nameless, isSegment⟩ := exists_segment_eq part
      rw [List.flatMap_cons] at admits ⊢
      have added := admits.add noBlock nameless
      simp only [segments, foldlM_cons_eq_ok_iff, isSegment, applyAll_eq_ok_iff,
        List.filterMap_append, Mark.runs_append_iff]
      constructor
      · rintro ⟨after, ⟨middle, first, others⟩, isShapes⟩
        exact ⟨middle.shapes, added.exists_foldlM_iff.mp ⟨middle, first, rfl⟩,
          (ih (added.after_foldlM first)).mp ⟨after, others, isShapes⟩⟩
      · rintro ⟨_, turns, runs⟩
        obtain ⟨middle, first, rfl⟩ := added.exists_foldlM_iff.mpr turns
        obtain ⟨after, others, isShapes⟩ := (ih (added.after_foldlM first)).mpr runs
        exact ⟨after, ⟨middle, first, others⟩, isShapes⟩

end Outline

/-! ## What the parts of a template need -/

/-- Whether an expression in the segment calls `super()`. -/
def Segment.callsSuper (part : Segment) : Bool :=
  part.effects.any Effect.callsSuper

/-- The marks of segments that are accepted by themselves are those of their effects. -/
theorem marks_flatMap_effects {parts : List Segment}
    (accepted : ∀ part ∈ parts, part.isAccepted = true) :
    (parts.flatMap Segment.effects).filterMap Effect.mark? = parts.filterMap Segment.mark? := by
  induction parts with
  | nil => rfl
  | cons part parts ih =>
      obtain ⟨first, others⟩ := List.forall_mem_cons.mp accepted
      rw [List.flatMap_cons, List.filterMap_append, part.marks_effects first, ih others,
        filterMap_cons_eq]

/-- The blocks that effects define are among those that their marks begin. -/
theorem defined_sublist (effects : List Effect) :
    (effects.filterMap Effect.defined?).Sublist
      ((effects.filterMap Effect.mark?).filterMap Mark.block?) := by
  induction effects with
  | nil => exact .refl _
  | cons effect effects ih =>
      rw [filterMap_cons_eq, filterMap_cons_eq, List.filterMap_append]
      apply List.Sublist.append _ ih
      cases effect <;> first | exact .refl _ | exact List.nil_sublist _

/-- An `extends` tag that is accepted has one effect. -/
theorem exists_of_extendsEffects {text : List Char} {effects : List Effect}
    (accepted : extendsEffects text = .ok effects) :
    ∃ expression, Expression.ofText text = .ok expression ∧ effects = [.extend expression] := by
  obtain ⟨expression, isExpression, accepted⟩ := bind_eq_ok_iff.mp accepted
  split at accepted
  · cases accepted
  · cases accepted
    exact ⟨expression, isExpression, rfl⟩

/-- A `block` tag that is accepted has one effect. -/
theorem exists_of_blockEffects {text : List Char} {effects : List Effect}
    (accepted : blockEffects text = .ok effects) : ∃ name, effects = [.define name] := by
  obtain ⟨expression, _, accepted⟩ := bind_eq_ok_iff.mp accepted
  split at accepted
  · cases accepted
  · split at accepted
    · split at accepted
      · cases accepted
        exact ⟨_, rfl⟩
      · cases accepted
    · cases accepted

theorem countP_isExtend_of_mayHave {name : String} {effects : List Effect}
    (other : name ≠ "extends") (belong : MayHave name effects) :
    effects.countP Effect.isExtend = 0 := by
  rw [List.countP_eq_zero]
  intro effect member isExtend
  cases effect with
  | extend expression => exact other (by simpa [Effect.belongsTo] using belong _ member)
  | _ => cases isExtend

/-- A tag has at most one effect that names a parent, and none unless it is an `extends` tag. -/
theorem Segment.countP_isExtend_le (part : Segment) :
    part.effects.countP Effect.isExtend ≤ part.isExtendsTag.toNat := by
  cases part with
  | text run line => exact Nat.zero_le _
  | output body line =>
      rw [effects, countP_isExtend_of_mayHave (by decide) (mayHave_ofOutput "" body)]
      exact Nat.zero_le _
  | tag body line =>
      by_cases named : tagName body = "extends"
      · have isTag : Segment.isExtendsTag (.tag body line) = true := by
          simpa [isExtendsTag] using named
        rw [isTag, Bool.toNat_true]
        apply Nat.le_trans List.countP_le_length
        simp only [effects, Effect.ofTag, named]
        cases accepted : extendsEffects (tagArgument body) with
        | error cause => exact Nat.le_refl 1
        | ok effects =>
            obtain ⟨expression, _, rfl⟩ := exists_of_extendsEffects accepted
            exact Nat.le_refl 1
      · rw [effects, countP_isExtend_of_mayHave named (mayHave_ofTag body)]
        exact Nat.zero_le _
  | comment body line => exact Nat.zero_le _

theorem countP_isExtend_flatMap_le (parts : List Segment) :
    (parts.flatMap Segment.effects).countP Effect.isExtend ≤
      parts.countP Segment.isExtendsTag := by
  induction parts with
  | nil => exact Nat.le_refl 0
  | cons part parts ih =>
      have first := part.countP_isExtend_le
      rw [List.flatMap_cons, List.countP_append, ← List.singleton_append, List.countP_append]
      have same : [part].countP Segment.isExtendsTag = part.isExtendsTag.toNat := by
        cases isTag : part.isExtendsTag <;> simp [isTag]
      omega

/-- A mark that begins or ends a block is that of a `block` or an `endblock` tag. -/
theorem Mark.name_of_ofTag? {name : String} {argument : List Char} {mark : Mark}
    (marked : ofTag? name argument = some mark)
    (isBlock : (mark.beginsBlock || mark.endsABlock) = true) :
    name = "block" ∨ name = "endblock" := by
  unfold ofTag? at marked
  split at marked
  · exact Or.inl rfl
  · exact Or.inr rfl
  all_goals
    exfalso
    try split at marked
    all_goals
      cases marked
      try cases isBlock

/-- A segment that calls `super()` neither begins nor ends a block. -/
theorem Segment.mark?_of_callsSuper {part : Segment} {mark : Mark} (calls : part.callsSuper = true)
    (marked : part.mark? = some mark) : (mark.beginsBlock || mark.endsABlock) = false := by
  rw [← Bool.not_eq_true]
  intro isBlock
  cases part with
  | tag body line =>
      rcases Mark.name_of_ofTag? marked isBlock with named | named
      · simp only [callsSuper, effects, Effect.ofTag, named] at calls
        cases accepted : blockEffects (tagArgument body) with
        | error cause =>
            rw [accepted] at calls
            cases calls
        | ok effects =>
            obtain ⟨name, rfl⟩ := exists_of_blockEffects accepted
            rw [accepted] at calls
            cases calls
      · simp only [callsSuper, effects, Effect.ofTag, named] at calls
        cases calls
  | _ => cases marked

/-- An element of a concatenation stands in one of the parts. -/
theorem exists_of_flatMap_eq {α β : Type} {f : α → List β} {parts : List α} {before later : List β}
    {one : β} (whole : parts.flatMap f = before ++ one :: later) :
    ∃ position, ∃ inside : position < parts.length, ∃ first last,
      before = (parts.take position).flatMap f ++ first ∧
        f parts[position] = first ++ one :: last := by
  induction parts generalizing before with
  | nil => simp at whole
  | cons part parts ih =>
      have further {rest : List β} (whole : parts.flatMap f = rest ++ one :: later) :
          ∃ position, ∃ inside : position < (part :: parts).length, ∃ first last,
            f part ++ rest = ((part :: parts).take position).flatMap f ++ first ∧
              f (part :: parts)[position] = first ++ one :: last := by
        obtain ⟨position, inside, first, last, rfl, found⟩ := ih whole
        exact ⟨position + 1, Nat.succ_lt_succ inside, first, last, by simp, found⟩
      rw [List.flatMap_cons, List.append_eq_append_iff] at whole
      rcases whole with ⟨rest, rfl, whole⟩ | ⟨own, isPart, whole⟩
      · exact further whole
      · rcases List.cons_eq_append_iff.mp whole with ⟨rfl, whole⟩ | ⟨last, rfl, rfl⟩
        · rw [List.append_nil] at isPart
          rw [← isPart, ← List.append_nil (f part)]
          exact further whole.symm
        · exact ⟨0, Nat.succ_pos _, before, last, rfl, isPart⟩

/-- Parts that are accepted by themselves, define no block twice, name at most one parent and call
`super()` only inside blocks need nothing besides the structures around them. -/
theorem Outline.admits_empty {parts : List Segment}
    (accepted : ∀ part ∈ parts, part.isAccepted = true)
    (distinct : ((parts.filterMap Segment.mark?).filterMap Mark.block?).Nodup)
    (single : parts.countP Segment.isExtendsTag ≤ 1)
    (inBlock : ∀ position, ∀ inside : position < parts.length, parts[position].callsSuper = true →
      Mark.LeaveBlockOpen ((parts.take position).filterMap Segment.mark?)) :
    Outline.empty.Admits (parts.flatMap Segment.effects) where
  accepted := by
    simp only [List.any_flatMap, List.any_eq_false, Bool.not_eq_true]
    intro part member
    simpa [Segment.isAccepted] using accepted part member
  distinct := by
    rw [← marks_flatMap_effects accepted] at distinct
    exact distinct.sublist (defined_sublist _)
  single := by
    have bound := countP_isExtend_flatMap_le parts
    rw [Outline.empty, namesParent_nil, Bool.toNat_false]
    omega
  inBlock before effect later shapes whole calls runs := by
    obtain ⟨position, inside, first, last, rfl, isPart⟩ := exists_of_flatMap_eq whole
    have partCalls : parts[position].callsSuper = true := by
      simp [Segment.callsSuper, isPart, calls]
    have isOpen := inBlock position inside partCalls
    have acceptedBefore : ∀ part ∈ parts.take position, part.isAccepted = true := fun part member =>
      accepted part (List.mem_of_mem_take member)
    rw [List.filterMap_append, Mark.runs_append_iff, marks_flatMap_effects acceptedBefore] at runs
    obtain ⟨middle, toPart, inPart⟩ := runs
    -- The marks in front of the call in its own tag neither begin nor end a block.
    have neither : ∀ mark ∈ first.filterMap Effect.mark?,
        (mark.beginsBlock || mark.endsABlock) = false := by
      intro mark member
      apply Segment.mark?_of_callsSuper partCalls
      have marks := Segment.marks_effects (accepted _ (List.getElem_mem inside))
      rw [isPart, List.filterMap_append] at marks
      rw [← Option.mem_toList, ← marks]
      exact List.mem_append_left _ member
    have counted := toPart.openBlocks_add
    rw [Mark.LeaveBlockOpen] at isOpen
    rw [inPart.openBlocks_eq neither]
    omega

end Lineage.Template
