import Lineage.Proofs.Acceptance

/-!
# Where the blocks of a template stand

The marks of the tags in front of a segment tell which structures are open there
(`Mark.Runs`), and with them the innermost open block.  The main result tells the blocks of an
accepted template by this alone: each is the one of a `block` tag, its `enclosing` is the innermost
block that is open at the tag, and it calls `super()` exactly if some expression does so while the
block is the innermost open one.

A call of `super()` marks a block that was defined long before, and the frames of an outline are
what leads there.  That a segment which calls `super()` neither begins nor ends a block
(`Segment.mark?_of_callsSuper`) makes it the same block for all expressions of the segment.
-/

namespace Lineage.Template

open Lineage.Text

/-! ## The innermost open block -/

/-- The name of the block that has the shape. -/
def Shape.block? : Shape → Option String
  | .block name => some name
  | _ => none

namespace Mark

/-- The name of the innermost block among open structures, which are listed innermost first. -/
def innermost? (shapes : List Shape) : Option String :=
  shapes.findSome? Shape.block?

/-- A mark turns open structures in one way only. -/
theorem Turns.unique {mark : Mark} {shapes first second : List Shape}
    (one : mark.Turns shapes first) (other : mark.Turns shapes second) : first = second := by
  cases mark with
  | begins shape => exact (turns_begins_iff.mp one).trans (turns_begins_iff.mp other).symm
  | elif => exact (turns_elif_iff.mp one).1.trans (turns_elif_iff.mp other).1.symm
  | otherwise =>
      rcases turns_otherwise_iff.mp one with ⟨outer, rfl, rfl⟩ | ⟨rfl, loop⟩
      · rcases turns_otherwise_iff.mp other with ⟨_, same, rfl⟩ | ⟨_, loop⟩
        · cases same
          rfl
        · cases loop
      · rcases turns_otherwise_iff.mp other with ⟨_, rfl, _⟩ | ⟨rfl, _⟩
        · cases loop
        · rfl
  | endsBlock given =>
      obtain ⟨_, rfl, _⟩ := turns_endsBlock_iff.mp one
      obtain ⟨_, same, _⟩ := turns_endsBlock_iff.mp other
      exact (List.cons.inj same).2
  | ends kind =>
      obtain ⟨_, rfl, _⟩ := turns_ends_iff.mp one
      obtain ⟨_, same, _⟩ := turns_ends_iff.mp other
      exact (List.cons.inj same).2

/-- Marks lead to one list of open structures only. -/
theorem Runs.unique {marks : List Mark} {shapes first second : List Shape}
    (one : Runs marks shapes first) (other : Runs marks shapes second) : first = second := by
  induction one with
  | nil => exact (runs_nil_iff.mp other).symm
  | cons turns _ ih =>
      obtain ⟨middle, same, rest⟩ := runs_cons_iff.mp other
      cases turns.unique same
      exact ih rest

/-- A structure other than a block may come or go. -/
theorem innermost?_cons_of_ne {shape : Shape} (shapes : List Shape) (other : shape.kind ≠ .block) :
    innermost? (shape :: shapes) = innermost? shapes := by
  have noBlock : shape.block? = none := by
    cases shape with
    | block name => exact absurd rfl other
    | _ => rfl
  rw [innermost?, List.findSome?_cons_of_isNone (by rw [noBlock]; rfl), innermost?]

/-- A mark that neither begins nor ends a block leaves the innermost one. -/
theorem Turns.innermost?_eq {mark : Mark} {shapes after : List Shape}
    (turns : mark.Turns shapes after) (neither : (mark.beginsBlock || mark.endsABlock) = false) :
    innermost? after = innermost? shapes := by
  cases turns with
  | begins shape outer =>
      apply innermost?_cons_of_ne
      intro isBlock
      simp [beginsBlock, isBlock] at neither
  | elif outer => rfl
  | otherwise outer => rfl
  | loopElse outer => rfl
  | closes closes outer =>
      cases closes with
      | block named => cases neither
      | kind shape =>
          symm
          apply innermost?_cons_of_ne
          intro isBlock
          simp [beginsBlock, endsABlock, isBlock] at neither

theorem Runs.innermost?_eq {marks : List Mark} {shapes after : List Shape}
    (runs : Runs marks shapes after)
    (neither : ∀ mark ∈ marks, (mark.beginsBlock || mark.endsABlock) = false) :
    innermost? after = innermost? shapes := by
  induction runs with
  | nil => rfl
  | cons turns _ ih =>
      rw [ih fun mark member => neither mark (List.mem_cons_of_mem _ member)]
      exact turns.innermost?_eq (neither _ List.mem_cons_self)

/-- An open block has been begun, and what is open around it is what was open then. -/
theorem Runs.exists_begins {marks : List Mark} {inner outer : List Shape} {name : String}
    (runs : Runs marks [] (inner ++ .block name :: outer)) : ∃ before after,
      marks = before ++ .begins (.block name) :: after ∧ Runs before [] outer := by
  -- from the last mark on, which is the one that begins the block or leaves it as it is
  induction marks using List.reverseRecOn generalizing inner with
  | nil => simp [runs_nil_iff] at runs
  | append_singleton marks last ih =>
      obtain ⟨middle, first, turned⟩ := runs_append_iff.mp runs
      have earlier (around : List Shape) (isMiddle : middle = around ++ .block name :: outer) :
          ∃ before after, marks ++ [last] = before ++ .begins (.block name) :: after ∧
            Runs before [] outer := by
        rw [isMiddle] at first
        obtain ⟨before, after, rfl, toBlock⟩ := ih first
        exact ⟨before, after ++ [last], by simp, toBlock⟩
      obtain ⟨_, turns, ended⟩ := runs_cons_iff.mp turned
      rw [← runs_nil_iff.mp ended] at turns
      generalize isAfter : inner ++ .block name :: outer = after at turns
      cases turns with
      | begins shape _ =>
          cases inner with
          | nil =>
              cases isAfter
              exact ⟨marks, [], rfl, first⟩
          | cons _ inner =>
              cases isAfter
              exact earlier inner rfl
      | elif _ => exact earlier inner isAfter.symm
      | otherwise _ =>
          cases inner with
          | nil => cases isAfter
          | cons _ inner =>
              cases isAfter
              exact earlier (.conditional false :: inner) rfl
      | loopElse _ => exact earlier inner isAfter.symm
      | @closes _ shape _ _ =>
          cases isAfter
          exact earlier (shape :: inner) rfl

end Mark

/-! ## The segments of a template -/

/-- The expression that an effect looks through for reads and calls. -/
def Effect.scanned? : Effect → Option Expression
  | .read expression _ => some expression
  | .test expression => some expression
  | _ => none

/-- The word `super` stands in the list directly in front of an opening round bracket. -/
def HoldsSuperCall (tokens : List Token) : Prop :=
  ∃ before word bracket after, tokens = before ++ word :: bracket :: after ∧
    word.isWord "super" = true ∧ bracket.isSign "(" = true

/-- Some expression that is looked through in the segment calls `super()`. -/
def Segment.HoldsSuperCall (part : Segment) : Prop :=
  ∃ effect ∈ part.effects, ∃ expression ∈ effect.scanned?,
    Template.HoldsSuperCall expression.tokens

/-- `block` is the innermost block that is open behind the segments, or none is. -/
def Innermost (parts : List Segment) (block : Option String) : Prop :=
  ∃ shapes, Mark.Runs (parts.filterMap Segment.mark?) [] shapes ∧ Mark.innermost? shapes = block

/-- Some segment calls `super()` where `block` is the innermost open block, or where none is. -/
def CallsSuperIn (parts : List Segment) (block : Option String) : Prop :=
  ∃ before part, before ++ [part] <+: parts ∧ part.HoldsSuperCall ∧ Innermost before block

/-- The blocks are those that the tags of the segments define. -/
structure BlocksOf (parts : List Segment) (blocks : List Block) : Prop where
  distinct : (blocks.map (·.name)).Nodup
  /-- Every `block` tag defines a block. -/
  complete : ∀ before body line name, before ++ [.tag body line] <+: parts →
    (Segment.tag body line).mark? = some (.begins (.block name)) →
      ∃ block ∈ blocks, block.name = name ∧ block.line = line ∧ Innermost before block.enclosing
  /-- Every block has its tag, and encloses it the block that is the innermost one there. -/
  sound : ∀ block ∈ blocks, ∃ before body, before ++ [.tag body block.line] <+: parts ∧
    (Segment.tag body block.line).mark? = some (.begins (.block block.name)) ∧
      Innermost before block.enclosing
  callsSuper : ∀ block ∈ blocks, block.callsSuper = true ↔ CallsSuperIn parts (some block.name)
  /-- There is no call of `super()` outside all blocks. -/
  inBlock : ¬ CallsSuperIn parts none

theorem anySuperCall_eq_true_iff {tokens : List Token} :
    anySuperCall tokens = true ↔ HoldsSuperCall tokens := by
  induction tokens with
  | nil => simp [anySuperCall, HoldsSuperCall]
  | cons token after ih =>
      have here : token.word?.any (fun name => callsSuper name after) = true ↔
          token.isWord "super" = true ∧ after.head?.any (·.isSign "(") = true := by
        obtain ⟨lexeme, start⟩ := token
        cases lexeme <;> simp [Token.word?, Token.isWord, callsSuper]
      rw [anySuperCall, Bool.or_eq_true, ih, here]
      constructor
      · rintro (⟨isSuper, isCall⟩ | ⟨before, word, bracket, rest, rfl, called⟩)
        · obtain ⟨bracket, isHead, isBracket⟩ := (Option.any_eq_true _ _).mp isCall
          obtain ⟨rest, rfl⟩ := List.head?_eq_some_iff.mp isHead
          exact ⟨[], token, bracket, rest, rfl, isSuper, isBracket⟩
        · exact ⟨token :: before, word, bracket, rest, rfl, called⟩
      · rintro ⟨before, word, bracket, rest, whole, isSuper, isBracket⟩
        cases before with
        | nil =>
            obtain ⟨rfl, rfl⟩ := List.cons.inj whole
            exact Or.inl ⟨isSuper, isBracket⟩
        | cons first before =>
            obtain ⟨rfl, rfl⟩ := List.cons.inj whole
            exact Or.inr ⟨before, word, bracket, rest, rfl, isSuper, isBracket⟩

theorem Segment.callsSuper_eq_true_iff {part : Segment} :
    part.callsSuper = true ↔ part.HoldsSuperCall := by
  rw [callsSuper, List.any_eq_true, HoldsSuperCall]
  refine exists_congr fun effect => and_congr_right fun _ => ?_
  cases effect <;>
    simp [Effect.callsSuper, Effect.scanned?, Expression.callsSuper, anySuperCall_eq_true_iff]

theorem callsSuperIn_concat {parts : List Segment} {part : Segment} {block : Option String} :
    CallsSuperIn (parts ++ [part]) block ↔
      CallsSuperIn parts block ∨ (part.callsSuper = true ∧ Innermost parts block) := by
  rw [Segment.callsSuper_eq_true_iff]
  constructor
  · rintro ⟨before, other, isPrefix, calls, innermost⟩
    rcases List.prefix_concat_iff.mp isPrefix with same | earlier
    · obtain ⟨rfl, rfl⟩ : before = parts ∧ other = part := by simpa using same
      exact Or.inr ⟨calls, innermost⟩
    · exact Or.inl ⟨before, other, earlier, calls, innermost⟩
  · rintro (⟨before, other, earlier, calls, innermost⟩ | ⟨calls, innermost⟩)
    · exact ⟨before, other, earlier.trans (List.prefix_append _ _), calls, innermost⟩
    · exact ⟨parts, part, List.prefix_refl _, calls, innermost⟩

/-- An open block has a tag in front of the place, inside the structures that are around it. -/
theorem exists_tag_of_runs {parts : List Segment} {inner outer : List Shape} {name : String}
    (runs : Mark.Runs (parts.filterMap Segment.mark?) [] (inner ++ .block name :: outer)) :
    ∃ before body line, before ++ [.tag body line] <+: parts ∧
      (Segment.tag body line).mark? = some (.begins (.block name)) ∧
        Mark.Runs (before.filterMap Segment.mark?) [] outer := by
  obtain ⟨before, after, isMarks, toBlock⟩ := runs.exists_begins
  obtain ⟨first, later, rfl, rfl, isLater⟩ := List.filterMap_eq_append_iff.mp isMarks
  obtain ⟨unmarked, part, rest, rfl, silent, isMark, _⟩ := List.filterMap_eq_cons_iff.mp isLater
  cases part with
  | tag body line =>
      refine ⟨first ++ unmarked, body, line, ⟨rest, by simp⟩, isMark, ?_⟩
      rwa [List.filterMap_append, List.filterMap_eq_nil_iff.mpr silent, List.append_nil]
  | _ => cases isMark

/-- The innermost open block has a tag in front of the place. -/
theorem Innermost.exists_tag {parts : List Segment} {name : String}
    (innermost : Innermost parts (some name)) : ∃ before body line,
      before ++ [.tag body line] <+: parts ∧
        (Segment.tag body line).mark? = some (.begins (.block name)) := by
  obtain ⟨shapes, runs, isName⟩ := innermost
  obtain ⟨inner, shape, outer, rfl, isBlock, _⟩ := List.findSome?_eq_some_iff.mp isName
  cases shape with
  | block other =>
      cases isBlock
      obtain ⟨before, body, line, isPrefix, isMark, _⟩ := exists_tag_of_runs runs
      exact ⟨before, body, line, isPrefix, isMark⟩
  | _ => cases isBlock

/-! ## The blocks after a step -/

/-- The block behind an expression, which may call `super()` in the innermost block. -/
def Block.behind (calls : Bool) (innermost : Option String) (block : Block) : Block :=
  { block with callsSuper := block.callsSuper || (calls && innermost == some block.name) }

@[simp]
theorem Block.behind_false (innermost : Option String) : Block.behind false innermost = id := by
  funext block
  simp [behind]

theorem Block.behind_behind (first second : Bool) (innermost : Option String) (block : Block) :
    (block.behind first innermost).behind second innermost =
      block.behind (first || second) innermost := by
  cases first <;> cases second <;> simp [behind]

namespace BlocksOf

variable {parts : List Segment} {blocks : List Block} {part : Segment}

theorem nil : BlocksOf [] [] where
  distinct := List.nodup_nil
  complete := by
    intro before body line name isPrefix
    simp at isPrefix
  sound := List.forall_mem_nil _
  callsSuper := List.forall_mem_nil _
  inBlock := by
    rintro ⟨before, part, isPrefix, _⟩
    simp at isPrefix

/-- A call of `super()` stands behind the tag of its block. -/
theorem mem_of_callsSuperIn (blocksOf : BlocksOf parts blocks) {name : String}
    (calls : CallsSuperIn parts (some name)) : name ∈ blocks.map (·.name) := by
  obtain ⟨before, part, isPrefix, _, innermost⟩ := calls
  obtain ⟨front, body, line, isFront, isMark⟩ := innermost.exists_tag
  have inParts := isFront.trans ((List.prefix_append before [part]).trans isPrefix)
  obtain ⟨block, member, named, _⟩ := blocksOf.complete front body line name inParts isMark
  exact List.mem_map.mpr ⟨block, member, named⟩

/-- One more segment defines a block. -/
theorem define (blocksOf : BlocksOf parts blocks) {name : String} {body : List Char} {line : Nat}
    {innermost : Option String} (isMark : (Segment.tag body line).mark? = some (.begins (.block name)))
    (silent : (Segment.tag body line).callsSuper = false) (new : name ∉ blocks.map (·.name))
    (here : Innermost parts innermost) :
    BlocksOf (parts ++ [.tag body line]) (blocks ++ [⟨name, false, innermost, line⟩]) := by
  have noCall {block : Option String} :
      CallsSuperIn (parts ++ [.tag body line]) block ↔ CallsSuperIn parts block := by
    simp [callsSuperIn_concat, silent]
  constructor
  · rw [List.map_append, List.map_singleton, ← List.concat_eq_append]
    exact List.Nodup.concat new blocksOf.distinct
  · intro before other begun block isPrefix isBlock
    rcases List.prefix_concat_iff.mp isPrefix with same | earlier
    · obtain ⟨rfl, rfl, rfl⟩ : before = parts ∧ other = body ∧ begun = line := by simpa using same
      obtain rfl : name = block := by simpa using isMark.symm.trans isBlock
      exact ⟨_, List.mem_append_right _ List.mem_cons_self, rfl, rfl, here⟩
    · obtain ⟨found, member, told⟩ := blocksOf.complete before other begun block earlier isBlock
      exact ⟨found, List.mem_append_left _ member, told⟩
  · intro block member
    rcases List.mem_append.mp member with old | isNew
    · obtain ⟨before, other, earlier, told⟩ := blocksOf.sound block old
      exact ⟨before, other, earlier.trans (List.prefix_append _ _), told⟩
    · rw [List.mem_singleton.mp isNew]
      exact ⟨parts, body, List.prefix_refl _, isMark, here⟩
  · intro block member
    rw [noCall]
    rcases List.mem_append.mp member with old | isNew
    · exact blocksOf.callsSuper block old
    · rw [List.mem_singleton.mp isNew]
      exact iff_of_false Bool.false_ne_true (mt blocksOf.mem_of_callsSuperIn new)
  · rw [noCall]
    exact blocksOf.inBlock

/-- One more segment defines no block, and may call `super()` in the innermost one. -/
theorem behind (blocksOf : BlocksOf parts blocks) {innermost : Option String}
    (unmarked : ∀ name, part.mark? ≠ some (.begins (.block name)))
    (inBlock : part.callsSuper = true → innermost.isSome = true)
    (here : ∀ block, Innermost parts block ↔ innermost = block) :
    BlocksOf (parts ++ [part]) (blocks.map (Block.behind part.callsSuper innermost)) := by
  constructor
  · rw [List.map_map]
    exact blocksOf.distinct
  · intro before body line name isPrefix isBlock
    rcases List.prefix_concat_iff.mp isPrefix with same | earlier
    · obtain ⟨rfl, rfl⟩ : before = parts ∧ .tag body line = part := by simpa using same
      exact absurd isBlock (unmarked name)
    · obtain ⟨found, member, told⟩ := blocksOf.complete before body line name earlier isBlock
      exact ⟨_, List.mem_map_of_mem member, told⟩
  · rw [List.forall_mem_map]
    intro block member
    obtain ⟨before, body, earlier, told⟩ := blocksOf.sound block member
    exact ⟨before, body, earlier.trans (List.prefix_append _ _), told⟩
  · rw [List.forall_mem_map]
    intro block member
    rw [callsSuperIn_concat, here]
    simp [Block.behind, blocksOf.callsSuper block member]
  · rw [callsSuperIn_concat, here]
    rintro (outside | ⟨calls, none⟩)
    · exact blocksOf.inBlock outside
    · simp [none] at inBlock
      simp [inBlock] at calls

end BlocksOf

namespace Outline

variable {outline after : Outline} {line : Nat}

/-- The blocks that are defined. -/
def blocks (outline : Outline) : List Block :=
  outline.nodes.filterMap Node.block?

theorem innermost?_shapes (outline : Outline) :
    Mark.innermost? outline.shapes = outline.innermostBlock? := by
  rw [Mark.innermost?, shapes, List.findSome?_map, innermostBlock?]
  congr 1
  funext frame
  obtain ⟨opened, begun, names⟩ := frame
  cases opened <;> rfl

/-- Nodes that define no block are of no account. -/
theorem blocks_add {nodes : List Node} (noBlock : nodes.filterMap Node.block? = []) :
    (outline.add nodes).blocks = outline.blocks := by
  rw [blocks, add, List.filterMap_append, noBlock, List.append_nil, blocks]

theorem blocks_bind (outline : Outline) (line : Nat) (names : List String) :
    (outline.bind line names).blocks = outline.blocks := by
  unfold bind
  split
  · rfl
  · exact blocks_add (by simp [Node.block?])

theorem blocks_leave {expected : Structure} (done : outline.leave line expected = .ok after) :
    after.blocks = outline.blocks := by
  obtain ⟨frame, frames, _, _, rfl⟩ := leave_eq_ok_iff.mp done
  cases frame.opened with
  | capture names => exact blocks_bind _ _ _
  | _ => rfl

/-- A call of `super()` in an expression marks the innermost block, and there has to be one. -/
theorem blocks_read {expression : Expression} {context : Context}
    (done : outline.read line expression context = .ok after) :
    after.blocks = outline.blocks.map (Block.behind expression.callsSuper outline.innermostBlock?) ∧
      (expression.callsSuper = true → outline.innermostBlock?.isSome = true) := by
  have noBlock : (outline.reads line expression context).filterMap Node.block? = [] := by
    simp [reads, readNode, Node.block?]
  rcases read_eq_ok_iff.mp done with ⟨calls, rfl⟩ | ⟨calls, name, innermost, rfl⟩
  · rw [blocks_add noBlock]
    simp [calls]
  · have marked : ∀ node : Node, (Node.markSuper name node).block? =
        node.block?.map (Block.behind true (some name)) := by
      intro node
      cases node with
      | block site =>
          by_cases same : site.name = name
          · simp [Node.markSuper, Node.block?, Block.behind, same]
          · have other : (name == site.name) = false := beq_false_of_ne (Ne.symm same)
            simp [Node.markSuper, Node.block?, Block.behind, same, other]
      | _ => rfl
    refine ⟨?_, fun _ => by rw [innermost, Option.isSome_some]⟩
    rw [blocks, List.filterMap_append, noBlock, List.append_nil, List.filterMap_map, calls,
      innermost, blocks, List.map_filterMap]
    congr 1
    funext node
    exact marked node

theorem blocks_extend {expression : Expression}
    (done : outline.extend line expression = .ok after) : after.blocks = outline.blocks := by
  rcases extend_eq_ok_iff.mp done with ⟨_, rfl⟩ | ⟨_, _, rfl⟩
  · simp [blocks, Node.block?]
  · rw [blocks, List.filterMap_map, blocks]
    congr 1
    funext node
    cases node <;> rfl

/-- An effect that defines no block leaves the blocks, and may call `super()` in the innermost. -/
theorem blocks_apply {effect : Effect} (other : effect.defined? = none)
    (done : outline.apply line effect = .ok after) :
    after.blocks = outline.blocks.map (Block.behind effect.callsSuper outline.innermostBlock?) ∧
      (effect.callsSuper = true → outline.innermostBlock?.isSome = true) := by
  have kept (silent : effect.callsSuper = false) (same : after.blocks = outline.blocks) :
      after.blocks = outline.blocks.map (Block.behind effect.callsSuper outline.innermostBlock?) ∧
        (effect.callsSuper = true → outline.innermostBlock?.isSome = true) := by
    rw [same, silent]
    simp
  cases effect with
  | refuse cause => cases done
  | read expression context => exact blocks_read done
  | test expression =>
      obtain ⟨middle, isRead, rfl⟩ := test_eq_ok_iff.mp done
      have ofRead := blocks_read isRead
      exact ofRead
  | expectBranch =>
      obtain ⟨rfl, _⟩ := expectBranch_eq_ok_iff.mp done
      exact kept rfl rfl
  | otherwise =>
      rcases otherwise_eq_ok_iff.mp done with ⟨_, _, _, _, _, rfl⟩ | ⟨_, rfl⟩
      · exact kept rfl rfl
      · exact kept rfl rfl
  | extend expression => exact kept rfl (blocks_extend done)
  | define block => cases other
  | enter opened names =>
      cases done
      exact kept rfl rfl
  | leaveBlock name => exact kept rfl (blocks_leave (leaveBlock_eq_ok_iff.mp done).2)
  | leave kind => exact kept rfl (blocks_leave done)
  | bind names =>
      cases done
      exact kept rfl (blocks_bind outline line names)

/-- Effects of which one calls `super()` do so in one block, if none of them begins or ends one. -/
theorem blocks_foldlM {effects : List Effect} (others : ∀ effect ∈ effects, effect.defined? = none)
    (neither : effects.any Effect.callsSuper = true → ∀ mark ∈ effects.filterMap Effect.mark?,
      (mark.beginsBlock || mark.endsABlock) = false)
    (done : effects.foldlM (fun current effect => current.apply line effect) outline = .ok after) :
    after.blocks = outline.blocks.map
        (Block.behind (effects.any Effect.callsSuper) outline.innermostBlock?) ∧
      (effects.any Effect.callsSuper = true → outline.innermostBlock?.isSome = true) := by
  induction effects generalizing outline with
  | nil =>
      cases done
      simp
  | cons effect effects ih =>
      obtain ⟨middle, first, rest⟩ := foldlM_cons_eq_ok_iff.mp done
      obtain ⟨other, others⟩ := List.forall_mem_cons.mp others
      rw [List.any_cons] at neither ⊢
      rw [filterMap_cons_eq] at neither
      obtain ⟨isMiddle, inBlock⟩ := blocks_apply other first
      obtain ⟨isAfter, inBlockLater⟩ := ih others
        (fun calls mark member => neither (by rw [calls, Bool.or_true]) mark
          (List.mem_append_right _ member)) rest
      cases calls : effect.callsSuper || effects.any Effect.callsSuper with
      | false =>
          obtain ⟨silent, silentLater⟩ := Bool.or_eq_false_iff.mp calls
          rw [isAfter, isMiddle, silent, silentLater]
          simp
      | true =>
          have same : middle.innermostBlock? = outline.innermostBlock? := by
            rw [← innermost?_shapes, ← innermost?_shapes]
            apply (runs_of_apply first).innermost?_eq
            intro mark member
            exact neither calls mark (List.mem_append_left _ member)
          rw [same] at isAfter inBlockLater
          constructor
          · rw [isAfter, isMiddle, List.map_map, ← calls]
            congr 1
            funext block
            exact Block.behind_behind _ _ _ _
          · intro _
            exact (Bool.or_eq_true_iff.mp calls).elim inBlock inBlockLater

/-- A segment that defines no block leaves the blocks, but may call `super()` in the innermost. -/
theorem blocks_segment_of_quiet {part : Segment}
    (others : ∀ effect ∈ part.effects, effect.defined? = none)
    (done : outline.segment part = .ok after) :
    after.blocks = outline.blocks.map (Block.behind part.callsSuper outline.innermostBlock?) ∧
      (part.callsSuper = true → outline.innermostBlock?.isSome = true) := by
  have isMark := part.marks_effects (isAccepted_of_segment done)
  obtain ⟨line, nodes, nameless, _, isSegment⟩ := exists_segment_eq part
  have noBlock : nodes.filterMap Node.block? = [] := by
    rw [blockNames, ← List.map_filterMap] at nameless
    exact List.map_eq_nil_iff.mp nameless
  rw [isSegment, applyAll_eq_ok_iff] at done
  have start : (outline.add nodes).blocks = outline.blocks := blocks_add noBlock
  rw [← start]
  apply blocks_foldlM others _ done
  intro calls mark member
  apply Segment.mark?_of_callsSuper calls
  rwa [isMark, Option.mem_toList] at member

/-- A `block` tag that is accepted adds its block and calls no `super()`. -/
theorem blocks_segment_of_block {body : List Char} {line : Nat} (named : tagName body = "block")
    (done : outline.segment (.tag body line) = .ok after) :
    ∃ name, (Segment.tag body line).mark? = some (.begins (.block name)) ∧
      (Segment.tag body line).callsSuper = false ∧ name ∉ outline.blocks.map (·.name) ∧
      after.blocks = outline.blocks ++ [⟨name, false, outline.innermostBlock?, line⟩] := by
  have accepted := isAccepted_of_segment done
  have isMark := Segment.marks_effects accepted
  have isBlock : (Segment.tag body line).effects =
      Effect.orRefuse (blockEffects (tagArgument body)) := by
    simp only [Segment.effects, Effect.ofTag, named]
  cases defines : blockEffects (tagArgument body) with
  | error cause =>
      rw [Segment.isAccepted, isBlock, defines] at accepted
      cases accepted
  | ok effects =>
      obtain ⟨name, rfl⟩ := exists_of_blockEffects defines
      rw [defines, Effect.orRefuse] at isBlock
      have applied : outline.applyAll line [.define name] = .ok after := by
        rw [← isBlock]
        exact done
      obtain ⟨_, defined, ended⟩ := foldlM_cons_eq_ok_iff.mp (applyAll_eq_ok_iff.mp applied)
      cases ended
      obtain ⟨new, rfl⟩ := define_eq_ok_iff.mp defined
      refine ⟨name, ?_, ?_, ?_, ?_⟩
      · rw [isBlock] at isMark
        exact Option.toList_eq_singleton_iff.mp isMark.symm
      · rw [Segment.callsSuper, isBlock]
        rfl
      · rwa [blockNames, ← List.map_filterMap] at new
      · simp [blocks, enter, add, Node.block?]

/-- A `block` tag adds its block, and any other segment leaves the blocks, but may call `super()` in
the innermost one. -/
theorem blocks_segment {part : Segment} (done : outline.segment part = .ok after) :
    (∃ name body line, part = .tag body line ∧ part.mark? = some (.begins (.block name)) ∧
      part.callsSuper = false ∧ name ∉ outline.blocks.map (·.name) ∧
      after.blocks = outline.blocks ++ [⟨name, false, outline.innermostBlock?, line⟩]) ∨
    ((∀ name, part.mark? ≠ some (.begins (.block name))) ∧
      after.blocks = outline.blocks.map (Block.behind part.callsSuper outline.innermostBlock?) ∧
      (part.callsSuper = true → outline.innermostBlock?.isSome = true)) := by
  cases part with
  | text run line => exact Or.inr ⟨fun _ => nofun, blocks_segment_of_quiet nofun done⟩
  | comment body line => exact Or.inr ⟨fun _ => nofun, blocks_segment_of_quiet nofun done⟩
  | output body line =>
      refine Or.inr ⟨fun _ => nofun, blocks_segment_of_quiet ?_ done⟩
      intro effect member
      have belongs := mayHave_ofOutput "" body effect member
      cases effect <;> first | rfl | cases belongs
  | tag body line =>
      by_cases named : tagName body = "block"
      · obtain ⟨name, defined⟩ := blocks_segment_of_block named done
        exact Or.inl ⟨name, body, line, rfl, defined⟩
      · right
        refine ⟨?_, blocks_segment_of_quiet ?_ done⟩
        · intro name isMark
          rcases Mark.name_of_ofTag? isMark rfl with isBlock | isEnd
          · exact named isBlock
          · rw [Segment.mark?, isEnd] at isMark
            cases isMark
        · intro effect member
          have belongs := mayHave_ofTag body effect member
          cases effect with
          | define block => exact absurd (by simpa [Effect.belongsTo] using belongs) named
          | _ => rfl

/-! ## The blocks of a template -/

/-- What is said of the blocks in segments is said in one more segment. -/
theorem blocksOf_concat {parts : List Segment} {part : Segment}
    (opened : Mark.Runs (parts.filterMap Segment.mark?) [] outline.shapes)
    (blocksOf : BlocksOf parts outline.blocks) (done : outline.segment part = .ok after) :
    BlocksOf (parts ++ [part]) after.blocks := by
  have here {block : Option String} : Innermost parts block ↔ outline.innermostBlock? = block := by
    rw [← innermost?_shapes]
    constructor
    · rintro ⟨shapes, runs, isName⟩
      rw [opened.unique runs, isName]
    · intro isName
      exact ⟨outline.shapes, opened, isName⟩
  rcases blocks_segment done with
    ⟨name, body, line, rfl, isMark, silent, new, isAfter⟩ | ⟨unmarked, isAfter, inBlock⟩
  · exact isAfter ▸ blocksOf.define isMark silent new (here.mpr rfl)
  · exact isAfter ▸ blocksOf.behind unmarked inBlock fun _ => here

/-- The outline of segments has their blocks. -/
theorem blocksOf_segments {parts : List Segment} (done : empty.segments parts = .ok outline) :
    BlocksOf parts outline.blocks := by
  -- from the last segment on, because a block is looked for in the segments in front of it
  induction parts using List.reverseRecOn generalizing outline with
  | nil =>
      cases done
      exact .nil
  | append_singleton parts part ih =>
      obtain ⟨middle, before, last⟩ := foldlM_append_eq_ok_iff.mp done
      obtain ⟨after, here, ended⟩ := foldlM_cons_eq_ok_iff.mp last
      cases ended
      exact blocksOf_concat (runs_of_segments before) (ih before) here

end Outline

/-- The blocks among the nodes of a template are those of its segments. -/
theorem Node.exists_blocksOf {text : List Char} {nodes : List Node}
    (found : Node.ofTemplate text = .ok nodes) :
    ∃ parts, Segment.ofTemplate text = .ok parts ∧ BlocksOf parts (nodes.filterMap Node.block?) := by
  obtain ⟨parts, outline, cut, done, _, rfl⟩ := Node.ofTemplate_eq_ok_iff.mp found
  exact ⟨parts, cut, Outline.blocksOf_segments done⟩

/-- The blocks of a template that is accepted are those of its `block` tags, with different names.
Each is told the innermost block that is open at its tag, and it calls `super()` exactly if some
expression does while the block is the innermost open one.  No expression does so outside all
blocks. -/
theorem Parsed.ofTemplate_blocksOf {name : String} {text : List Char} {parsed : Parsed}
    (read : Parsed.ofTemplate name text = .ok parsed) :
    ∃ parts, Segment.ofTemplate text = .ok parts ∧ BlocksOf parts parsed.blocks := by
  obtain ⟨_, found, _⟩ := Parsed.ofTemplate_eq_ok_iff.mp read
  exact Node.exists_blocksOf found

/-- A block stands in another one, inside a condition.  The call behind it, still inside the
condition, is one of the outer block. -/
theorem Parsed.ofTemplate_blocksOf_nested :
    let text := (Sample.extendsTag "base" ++ Sample.tag "block a" ++ Sample.tag "if x" ++
      Sample.tag "block b" ++ Sample.output "y" ++ Sample.tag "endblock b" ++
      Sample.output "super()" ++ Sample.tag "endif" ++ Sample.tag "endblock a").toList
    let parsed : Parsed := ⟨"page", [.extends (.literal "base") 1,
      .block ⟨"a", true, none, 1⟩, .read "x" .conditional 1, .block ⟨"b", false, some "a", 1⟩,
      .read "y" .bare 1]⟩
    Parsed.ofTemplate "page" text = .ok parsed ∧ ∃ parts, Segment.ofTemplate text = .ok parts ∧
      BlocksOf parts parsed.blocks ∧ CallsSuperIn parts (some "a") ∧
      ¬ CallsSuperIn parts (some "b") := by
  intro text parsed
  have read : Parsed.ofTemplate "page" text = .ok parsed := by decide +kernel
  obtain ⟨parts, cut, blocksOf⟩ := Parsed.ofTemplate_blocksOf read
  have outer := blocksOf.callsSuper ⟨"a", true, none, 1⟩ (by decide)
  have inner := blocksOf.callsSuper ⟨"b", false, some "a", 1⟩ (by decide)
  exact ⟨read, parts, cut, blocksOf, outer.mp rfl, fun calls => nomatch inner.mpr calls⟩

end Lineage.Template
