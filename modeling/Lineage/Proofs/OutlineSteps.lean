import Lineage.Template.Outline
import Lineage.Proofs.TagEffects

/-!
# The steps of an outline

For each effect it is said once what the outline is after it (`read_eq_ok_iff` and so on).  From
this follows what every step keeps: an outline only grows (`Outline.Grows`), since an effect adds
nodes at the end and may mark nodes that are there, but takes none away.  In an outline that has
grown from the empty one every open block is defined, and an `extends` tag inside an open structure
has left its node (`Outline.Sound`).
-/

namespace Lineage.Template

open Lineage.Text

/-! ## Blocks and parents among nodes -/

/-- The names of the blocks among the nodes. -/
def blockNames (nodes : List Node) : List String :=
  nodes.filterMap fun node => node.block?.map (·.name)

/-- The parents that the nodes name. -/
def parents (nodes : List Node) : List Parent :=
  nodes.filterMap Node.parent?

/-- Whether a node names a parent. -/
def namesParent (nodes : List Node) : Bool :=
  nodes.any (·.parent?.isSome)

/-- The names of the open blocks. -/
def openBlocks (frames : List Frame) : List String :=
  frames.filterMap Frame.block?

@[simp]
theorem blockNames_append (first second : List Node) :
    blockNames (first ++ second) = blockNames first ++ blockNames second :=
  List.filterMap_append

@[simp]
theorem parents_append (first second : List Node) :
    parents (first ++ second) = parents first ++ parents second :=
  List.filterMap_append

@[simp]
theorem namesParent_append (first second : List Node) :
    namesParent (first ++ second) = (namesParent first || namesParent second) :=
  List.any_append

@[simp]
theorem blockNames_nil : blockNames [] = [] :=
  rfl

@[simp]
theorem namesParent_nil : namesParent [] = false :=
  rfl

/-- A read defines no block. -/
@[simp]
theorem blockNames_read_cons (name : String) (guard : Guard) (line : Nat) (nodes : List Node) :
    blockNames (.read name guard line :: nodes) = blockNames nodes :=
  rfl

/-- A read names no parent. -/
@[simp]
theorem namesParent_read_cons (name : String) (guard : Guard) (line : Nat) (nodes : List Node) :
    namesParent (.read name guard line :: nodes) = namesParent nodes :=
  rfl

/-- Nodes name a parent exactly if there is one among the parents that they name. -/
theorem namesParent_eq_false_iff {nodes : List Node} :
    namesParent nodes = false ↔ parents nodes = [] := by
  rw [namesParent, List.any_eq_false, parents, List.filterMap_eq_nil_iff]
  simp

theorem namesParent_congr {nodes others : List Node} (same : parents nodes = parents others) :
    namesParent nodes = namesParent others := by
  rw [Bool.eq_iff_iff, ← Bool.not_eq_false, ← Bool.not_eq_false, namesParent_eq_false_iff,
    namesParent_eq_false_iff, same]

/-- A change of nodes may leave the names of the blocks as they are. -/
theorem blockNames_map {change : Node → Node} (kept : ∀ node : Node,
    (change node).block?.map (·.name) = node.block?.map (·.name)) (nodes : List Node) :
    blockNames (nodes.map change) = blockNames nodes := by
  simp only [blockNames, List.filterMap_map, Function.comp_def, kept]

/-- A change of nodes may leave it as it is whether they name a parent. -/
theorem namesParent_map {change : Node → Node} (kept : ∀ node : Node,
    (change node).parent?.isSome = node.parent?.isSome) (nodes : List Node) :
    namesParent (nodes.map change) = namesParent nodes := by
  simp only [namesParent, List.any_map, Function.comp_def, kept]

@[simp]
theorem blockNames_markSuper (name : String) (nodes : List Node) :
    blockNames (nodes.map (Node.markSuper name)) = blockNames nodes := by
  apply blockNames_map
  intro node
  cases node with
  | block site =>
      simp only [Node.markSuper, Node.block?, Option.map_some]
      split <;> rfl
  | _ => rfl

@[simp]
theorem parents_markSuper (name : String) (nodes : List Node) :
    parents (nodes.map (Node.markSuper name)) = parents nodes := by
  rw [parents, List.filterMap_map]
  congr 1
  funext node
  cases node <;> rfl

@[simp]
theorem namesParent_markSuper (name : String) (nodes : List Node) :
    namesParent (nodes.map (Node.markSuper name)) = namesParent nodes :=
  namesParent_congr (parents_markSuper name nodes)

@[simp]
theorem blockNames_addParent (expression : String) (nodes : List Node) :
    blockNames (nodes.map (Node.addParent expression)) = blockNames nodes := by
  apply blockNames_map
  intro node
  cases node <;> rfl

/-- With an alternative a parent is dynamic. -/
theorem parents_addParent (expression : String) (nodes : List Node) :
    parents (nodes.map (Node.addParent expression)) =
      (parents nodes).map fun parent => .dynamic (parent.expression ++ " | " ++ expression) := by
  rw [parents, parents, List.filterMap_map, List.map_filterMap]
  congr 1
  funext node
  cases node <;> rfl

@[simp]
theorem namesParent_addParent (expression : String) (nodes : List Node) :
    namesParent (nodes.map (Node.addParent expression)) = namesParent nodes := by
  apply namesParent_map
  intro node
  cases node <;> rfl

/-- Binding names opens no block and closes none. -/
theorem openBlocks_bindInnermost? {names : List String} {frames bound : List Frame}
    (binds : bindInnermost? names frames = some bound) : openBlocks bound = openBlocks frames := by
  induction frames generalizing bound with
  | nil => cases binds
  | cons frame frames ih =>
      rw [bindInnermost?] at binds
      split at binds
      · cases binds
        rfl
      · obtain ⟨inner, isInner, rfl⟩ := Option.map_eq_some_iff.mp binds
        simp only [openBlocks, List.filterMap_cons] at ih ⊢
        rw [ih isInner]

/-- Gives the innermost structure, if it is a condition, the names that its test reads. -/
def retest (tested : List String) : List Frame → List Frame
  | ⟨.conditional _ inElse, opened, names⟩ :: frames =>
    ⟨.conditional tested inElse, opened, names⟩ :: frames
  | frames => frames

theorem openBlocks_retest (tested : List String) (frames : List Frame) :
    openBlocks (retest tested frames) = openBlocks frames := by
  unfold retest
  split <;> rfl

/-- Whether the segment is an `extends` tag. -/
def Segment.isExtendsTag : Segment → Bool
  | .tag body _ => tagName body == "extends"
  | _ => false

namespace Outline

variable {outline after : Outline} {line : Nat}

/-! ## What the outline is after a step -/

/-- The nodes of the reads in an expression. -/
def reads (outline : Outline) (line : Nat) (expression : Expression) (context : Context) :
    List Node :=
  (expression.occurrences context outline.bound).map (outline.readNode line)

theorem pure_eq_ok_iff {value : Outline} :
    (pure value : Except Cause Outline) = .ok after ↔ after = value :=
  ⟨fun done => (Except.ok.inj done).symm, fun same => same ▸ rfl⟩

/-- The reads become nodes, and a call of `super()` marks the innermost block. -/
theorem read_eq_ok_iff {expression : Expression} {context : Context} :
    outline.read line expression context = .ok after ↔
      (expression.callsSuper = false ∧
        after = outline.add (outline.reads line expression context)) ∨
      (expression.callsSuper = true ∧ ∃ block, outline.innermostBlock? = some block ∧
        after = { outline with
          nodes := outline.nodes.map (Node.markSuper block) ++
            outline.reads line expression context }) := by
  unfold read
  cases calls : expression.callsSuper with
  | false =>
      simp only [Bool.false_eq_true, if_false, true_and, false_and, or_false]
      exact pure_eq_ok_iff
  | true =>
      cases innermost : outline.innermostBlock? with
      | none => simp [throw, throwThe, MonadExceptOf.throw]
      | some block =>
          simp only [if_true, reduceCtorEq, false_and, false_or, true_and, Option.some.injEq,
            exists_eq_left']
          exact pure_eq_ok_iff

/-- A test is read, and then guards the branch behind it. -/
theorem test_eq_ok_iff {expression : Expression} :
    outline.test line expression = .ok after ↔
      ∃ middle, outline.read line expression .test = .ok middle ∧
        after = { middle with
          frames := retest ((expression.occurrences .test outline.bound).map (·.name))
            middle.frames } := by
  unfold test
  cases done : outline.read line expression .test with
  | error cause => simp [Bind.bind, Except.bind]
  | ok middle =>
      simp only [Bind.bind, Except.bind, Except.ok.injEq, exists_eq_left']
      obtain ⟨nodes, frames, nested⟩ := middle
      cases frames with
      | nil => exact pure_eq_ok_iff
      | cons frame frames =>
          obtain ⟨opened, begun, names⟩ := frame
          cases opened <;> exact pure_eq_ok_iff

/-- The first `extends` tag leaves a node, and a later one adds an alternative to it. -/
theorem extend_eq_ok_iff {expression : Expression} :
    outline.extend line expression = .ok after ↔
      (namesParent outline.nodes = false ∧ after = { outline with
        nodes := outline.nodes ++ [.extends (parentOf outline.frames expression) line]
        nestedExtends := outline.nestedExtends || !outline.frames.isEmpty }) ∨
      (namesParent outline.nodes = true ∧
        (outline.nestedExtends || !outline.frames.isEmpty) = true ∧ after = { outline with
          nodes := outline.nodes.map (Node.addParent (String.ofList expression.source))
          nestedExtends := outline.nestedExtends || !outline.frames.isEmpty }) := by
  unfold extend
  cases first : outline.nodes.find? (·.parent?.isSome) with
  | none =>
      have nameless : namesParent outline.nodes = false := by
        simpa [namesParent] using first
      simp only [nameless, true_and, reduceCtorEq, false_and, or_false]
      exact pure_eq_ok_iff
  | some node =>
      have isParent : node.parent?.isSome = true := by simpa using List.find?_some first
      have names : namesParent outline.nodes = true :=
        List.any_eq_true.mpr ⟨node, List.mem_of_find?_eq_some first, isParent⟩
      simp only [names, true_and, reduceCtorEq, false_and, false_or]
      split
      · rename_i nested
        rw [nested]
        simp only [true_and]
        exact pure_eq_ok_iff
      · rename_i notNested
        simp [notNested]

/-- A block that is defined has a new name. -/
theorem define_eq_ok_iff {name : String} :
    outline.define line name = .ok after ↔ name ∉ blockNames outline.nodes ∧
      after = (outline.add [.block ⟨name, false, outline.innermostBlock?, line⟩]).enter line
        (.block name) [] := by
  have repeated : (outline.nodes.any fun node => node.block?.any (·.name == name)) = true ↔
      name ∈ blockNames outline.nodes := by
    simp only [blockNames, List.any_eq_true, Option.any_eq_true, beq_iff_eq, List.mem_filterMap,
      Option.map_eq_some_iff]
  unfold define
  split
  · rename_i taken
    simp [repeated.mp taken]
  · rename_i new
    rw [repeated] at new
    simp only [new, not_false_eq_true, true_and]
    exact pure_eq_ok_iff

/-- Assigns what the body of a closed structure captured. -/
def release (outline : Outline) (line : Nat) : Opened → Outline
  | .capture names => outline.bind line names
  | _ => outline

/-- The innermost structure is closed if it is of the expected kind. -/
theorem leave_eq_ok_iff {expected : Structure} :
    outline.leave line expected = .ok after ↔ ∃ frame frames, outline.frames = frame :: frames ∧
      frame.opened.kind = expected ∧
      after = ({ outline with frames := frames } : Outline).release line frame.opened := by
  unfold leave
  cases isOpen : outline.frames with
  | nil => simp
  | cons frame frames =>
      obtain ⟨opened, begun, names⟩ := frame
      simp only [List.cons.injEq]
      constructor
      · intro done
        split at done
        · rename_i kind
          refine ⟨_, _, ⟨rfl, rfl⟩, kind, ?_⟩
          cases opened <;> exact (Except.ok.inj done).symm
        · cases done
      · rintro ⟨_, _, ⟨rfl, rfl⟩, kind, rfl⟩
        rw [if_pos kind]
        cases opened <;> rfl

/-- A block may be closed by its name. -/
theorem leaveBlock_eq_ok_iff {name : String} :
    outline.leaveBlock line name = .ok after ↔
      (∀ block ∈ outline.frames.head?.bind Frame.block?, name = "" ∨ name = block) ∧
        outline.leave line .block = .ok after := by
  unfold leaveBlock
  split
  · rename_i block isBlock
    simp only [isBlock, Option.mem_def, Option.some.injEq, forall_eq']
    split
    · rename_i named
      simp [named]
    · rename_i misnamed
      simp [misnamed]
  · rename_i noBlock
    simp [noBlock]

theorem expectBranch_eq_ok_iff :
    outline.expectBranch = .ok after ↔ after = outline ∧
      ∃ tested, outline.frames.head?.map Frame.opened = some (.conditional tested false) := by
  unfold expectBranch
  split
  · rename_i isOpen
    simp [isOpen, eq_comm]
  · rename_i notOpen
    simp only [reduceCtorEq, false_iff, not_and, not_exists]
    intro _ tested isOpen
    obtain ⟨⟨opened, begun, names⟩, isHead, rfl⟩ := Option.map_eq_some_iff.mp isOpen
    obtain ⟨frames, isFrames⟩ := List.head?_eq_some_iff.mp isHead
    exact notOpen _ _ _ _ isFrames

/-- The `else` branch of a condition begins, in which no test guards, or that of a loop. -/
theorem otherwise_eq_ok_iff :
    outline.otherwise = .ok after ↔
      (∃ tested begun names frames,
        outline.frames = ⟨.conditional tested false, begun, names⟩ :: frames ∧
        after = { outline with frames := ⟨.conditional [] true, begun, names⟩ :: frames }) ∨
      (outline.frames.head?.map Frame.opened = some .loop ∧ after = outline) := by
  unfold otherwise
  split
  · rename_i isOpen
    constructor
    · intro done
      exact Or.inl ⟨_, _, _, _, isOpen, (Except.ok.inj done).symm⟩
    · rintro (⟨_, _, _, _, same, rfl⟩ | ⟨loop, _⟩)
      · cases isOpen.symm.trans same
        rfl
      · rw [isOpen] at loop
        cases loop
  · rename_i isOpen
    simp [isOpen, eq_comm]
  · rename_i noCondition noLoop
    simp only [reduceCtorEq, false_iff, not_or, not_and, not_exists]
    constructor
    · intro tested begun names frames isOpen
      exact absurd isOpen (noCondition _ _ _ _)
    · intro isOpen
      obtain ⟨⟨opened, begun, names⟩, isHead, rfl⟩ := Option.map_eq_some_iff.mp isOpen
      obtain ⟨frames, isFrames⟩ := List.head?_eq_some_iff.mp isHead
      exact absurd isFrames (noLoop _ _ _)

/-! ## What every step keeps -/

/-- What is kept, and where what is new comes from. -/
structure Grows (outline after : Outline) : Prop where
  blocks : blockNames outline.nodes ⊆ blockNames after.nodes
  parent : namesParent outline.nodes = true → namesParent after.nodes = true
  opened : openBlocks after.frames ⊆ openBlocks outline.frames ++ blockNames after.nodes
  nested : after.nestedExtends = true →
    outline.nestedExtends = true ∨ namesParent after.nodes = true

theorem Grows.refl (outline : Outline) : outline.Grows outline :=
  ⟨List.Subset.refl _, id, List.subset_append_left _ _, Or.inl⟩

theorem Grows.trans {middle : Outline} (first : outline.Grows middle)
    (second : middle.Grows after) : outline.Grows after where
  blocks := List.Subset.trans first.blocks second.blocks
  parent named := second.parent (first.parent named)
  opened name member := by
    rcases List.mem_append.mp (second.opened member) with before | new
    · rcases List.mem_append.mp (first.opened before) with before | new
      · exact List.mem_append_left _ before
      · exact List.mem_append_right _ (second.blocks new)
    · exact List.mem_append_right _ new
  nested isNested := by
    rcases second.nested isNested with before | named
    · exact (first.nested before).imp_right second.parent
    · exact Or.inr named

/-- Every open block is defined, and an `extends` tag inside a structure has left its node. -/
structure Sound (outline : Outline) : Prop where
  opened : openBlocks outline.frames ⊆ blockNames outline.nodes
  nested : outline.nestedExtends = true → namesParent outline.nodes = true

theorem sound_empty : empty.Sound :=
  ⟨List.nil_subset _, fun nested => nomatch nested⟩

theorem Sound.grows (sound : outline.Sound) (grows : outline.Grows after) : after.Sound where
  opened name member := by
    rcases List.mem_append.mp (grows.opened member) with before | new
    · exact grows.blocks (sound.opened before)
    · exact new
  nested isNested := by
    rcases grows.nested isNested with before | named
    · exact grows.parent (sound.nested before)
    · exact named

/-- A change of the open structures that opens no block. -/
theorem grows_of_frames {frames : List Frame}
    (opened : openBlocks frames ⊆ openBlocks outline.frames) :
    outline.Grows { outline with frames := frames } :=
  ⟨List.Subset.refl _, id, List.subset_append_of_subset_left _ opened, Or.inl⟩

theorem add_grows (outline : Outline) (nodes : List Node) : outline.Grows (outline.add nodes) where
  blocks := by
    rw [add, blockNames_append]
    exact List.subset_append_left _ _
  parent named := by rw [add, namesParent_append, named, Bool.true_or]
  opened := List.subset_append_left _ _
  nested := Or.inl

theorem read_grows {expression : Expression} {context : Context}
    (done : outline.read line expression context = .ok after) : outline.Grows after := by
  rcases read_eq_ok_iff.mp done with ⟨_, rfl⟩ | ⟨_, block, _, rfl⟩
  · exact add_grows outline _
  · constructor
    · simp
    · intro named
      simp [named]
    · exact List.subset_append_left _ _
    · exact Or.inl

theorem test_grows {expression : Expression}
    (done : outline.test line expression = .ok after) : outline.Grows after := by
  obtain ⟨middle, isRead, rfl⟩ := test_eq_ok_iff.mp done
  apply (read_grows isRead).trans
  apply grows_of_frames
  rw [openBlocks_retest]
  exact List.Subset.refl _

theorem bind_grows (outline : Outline) (line : Nat) (names : List String) :
    outline.Grows (outline.bind line names) := by
  unfold bind
  split
  · rename_i frames binds
    apply grows_of_frames
    rw [openBlocks_bindInnermost? binds]
    exact List.Subset.refl _
  · exact add_grows outline _

theorem extend_grows {expression : Expression}
    (done : outline.extend line expression = .ok after) :
    outline.Grows after ∧ namesParent after.nodes = true := by
  rcases extend_eq_ok_iff.mp done with ⟨_, rfl⟩ | ⟨named, _, rfl⟩
  · have names : namesParent (outline.nodes ++
        [.extends (parentOf outline.frames expression) line]) = true := by
      simp [namesParent, Node.parent?]
    refine ⟨⟨?_, fun _ => names, List.subset_append_left _ _, fun _ => Or.inr names⟩, names⟩
    rw [blockNames_append]
    exact List.subset_append_left _ _
  · have names : namesParent (outline.nodes.map
        (Node.addParent (String.ofList expression.source))) = true := by
      rw [namesParent_addParent, named]
    refine ⟨⟨?_, fun _ => names, List.subset_append_left _ _, fun _ => Or.inr names⟩, names⟩
    rw [blockNames_addParent]
    exact List.Subset.refl _

theorem define_grows {name : String} (done : outline.define line name = .ok after) :
    outline.Grows after := by
  obtain ⟨_, rfl⟩ := define_eq_ok_iff.mp done
  have defined : ∀ site : Block, blockNames [.block site] = [site.name] := fun _ => rfl
  constructor
  · simp only [enter, add, blockNames_append]
    exact List.subset_append_left _ _
  · intro named
    simp [enter, add, named]
  · intro block member
    simp only [enter, add, blockNames_append, defined, openBlocks, List.filterMap_cons,
      Frame.block?, List.mem_cons, List.mem_append] at member ⊢
    rcases member with rfl | before
    · exact Or.inr (Or.inr (Or.inl rfl))
    · exact Or.inl before
  · exact Or.inl

theorem enter_grows {opened : Opened} (noBlock : opened.kind ≠ .block) (names : List String) :
    outline.Grows (outline.enter line opened names) := by
  apply grows_of_frames
  have notBlock : Frame.block? ⟨opened, line, names⟩ = none := by
    cases opened with
    | block name => exact absurd rfl noBlock
    | _ => rfl
  rw [openBlocks, List.filterMap_cons, notBlock]
  exact List.Subset.refl _

theorem release_grows (outline : Outline) (line : Nat) (opened : Opened) :
    outline.Grows (outline.release line opened) := by
  cases opened with
  | capture names => exact bind_grows outline line names
  | _ => exact Grows.refl outline

theorem leave_grows {expected : Structure} (done : outline.leave line expected = .ok after) :
    outline.Grows after := by
  obtain ⟨frame, frames, isOpen, _, rfl⟩ := leave_eq_ok_iff.mp done
  apply Grows.trans _ (release_grows _ _ _)
  apply grows_of_frames
  rw [isOpen]
  exact (List.sublist_cons_self frame frames).filterMap _ |>.subset

theorem otherwise_grows (done : outline.otherwise = .ok after) : outline.Grows after := by
  rcases otherwise_eq_ok_iff.mp done with ⟨tested, begun, names, frames, isOpen, rfl⟩ | ⟨_, rfl⟩
  · apply grows_of_frames
    rw [isOpen]
    exact List.Subset.refl _
  · exact Grows.refl _

/-- An effect that belongs to a tag lets the outline grow. -/
theorem apply_grows {name : String} {effect : Effect} (belongs : effect.belongsTo name = true)
    (done : outline.apply line effect = .ok after) : outline.Grows after := by
  cases effect with
  | refuse cause => cases done
  | read expression context => exact read_grows done
  | test expression => exact test_grows done
  | expectBranch =>
      obtain ⟨rfl, _⟩ := expectBranch_eq_ok_iff.mp done
      exact Grows.refl _
  | otherwise => exact otherwise_grows done
  | extend expression => exact (extend_grows done).1
  | define block => exact define_grows done
  | enter opened names =>
      cases done
      simp only [Effect.belongsTo, Bool.and_eq_true, bne_iff_ne] at belongs
      exact enter_grows belongs.1 names
  | leaveBlock block => exact leave_grows (leaveBlock_eq_ok_iff.mp done).2
  | leave kind => exact leave_grows done
  | bind names =>
      cases done
      exact bind_grows outline line names

/-- The step names no parent and takes none away. -/
def KeepsParents (outline after : Outline) : Prop :=
  parents after.nodes = parents outline.nodes

theorem KeepsParents.refl (outline : Outline) : outline.KeepsParents outline :=
  rfl

theorem KeepsParents.trans {middle : Outline} (first : outline.KeepsParents middle)
    (second : middle.KeepsParents after) : outline.KeepsParents after :=
  Eq.trans second first

theorem parents_reads (expression : Expression) (context : Context) :
    parents (outline.reads line expression context) = [] := by
  rw [parents, reads, List.filterMap_map, List.filterMap_eq_nil_iff]
  exact fun _ _ => rfl

theorem namesParent_reads (expression : Expression) (context : Context) :
    namesParent (outline.reads line expression context) = false :=
  namesParent_eq_false_iff.mpr (parents_reads expression context)

theorem bind_keepsParents (outline : Outline) (line : Nat) (names : List String) :
    outline.KeepsParents (outline.bind line names) := by
  have assigns : parents (names.map (.assign · line)) = [] := by
    rw [parents, List.filterMap_map, List.filterMap_eq_nil_iff]
    exact fun _ _ => rfl
  unfold bind
  split
  · rfl
  · rw [KeepsParents, add, parents_append, assigns, List.append_nil]

theorem read_keepsParents {expression : Expression} {context : Context}
    (done : outline.read line expression context = .ok after) : outline.KeepsParents after := by
  rcases read_eq_ok_iff.mp done with ⟨_, rfl⟩ | ⟨_, block, _, rfl⟩
  · rw [KeepsParents, add, parents_append, parents_reads, List.append_nil]
  · rw [KeepsParents, parents_append, parents_reads, parents_markSuper, List.append_nil]

theorem leave_keepsParents {expected : Structure}
    (done : outline.leave line expected = .ok after) : outline.KeepsParents after := by
  obtain ⟨frame, frames, _, _, rfl⟩ := leave_eq_ok_iff.mp done
  cases frame.opened with
  | capture names => exact bind_keepsParents _ _ _
  | _ => exact KeepsParents.refl _

/-- Only the effect `extend` names a parent. -/
theorem apply_keepsParents_of_ne {effect : Effect}
    (other : ∀ expression, effect ≠ .extend expression)
    (done : outline.apply line effect = .ok after) : outline.KeepsParents after := by
  cases effect with
  | refuse cause => cases done
  | read expression context => exact read_keepsParents done
  | test expression =>
      obtain ⟨middle, isRead, rfl⟩ := test_eq_ok_iff.mp done
      have kept : parents middle.nodes = parents outline.nodes := read_keepsParents isRead
      exact kept
  | expectBranch =>
      obtain ⟨rfl, _⟩ := expectBranch_eq_ok_iff.mp done
      exact KeepsParents.refl _
  | otherwise =>
      rcases otherwise_eq_ok_iff.mp done with ⟨_, _, _, _, _, rfl⟩ | ⟨_, rfl⟩
      · rfl
      · rfl
  | extend expression => exact absurd rfl (other expression)
  | define block =>
      obtain ⟨_, rfl⟩ := define_eq_ok_iff.mp done
      simp [KeepsParents, enter, add, parents, Node.parent?]
  | enter opened names =>
      cases done
      rfl
  | leaveBlock block => exact leave_keepsParents (leaveBlock_eq_ok_iff.mp done).2
  | leave kind => exact leave_keepsParents done
  | bind names =>
      cases done
      exact bind_keepsParents outline line names

theorem namesParent_apply_of_ne {effect : Effect} (other : ∀ expression, effect ≠ .extend expression)
    (done : outline.apply line effect = .ok after) :
    namesParent after.nodes = namesParent outline.nodes :=
  namesParent_congr (apply_keepsParents_of_ne other done)

/-- Only an effect of an `extends` tag names a parent. -/
theorem apply_keepsParents {name : String} (other : name ≠ "extends") {effect : Effect}
    (belongs : effect.belongsTo name = true) (done : outline.apply line effect = .ok after) :
    outline.KeepsParents after := by
  apply apply_keepsParents_of_ne _ done
  rintro expression rfl
  exact other (by simpa [Effect.belongsTo] using belongs)

/-! ## The effects of a tag and the segments of a template -/

section Fold

variable {α ε : Type} {step : Outline → α → Except ε Outline}

theorem foldlM_cons_eq_ok_iff {first : α} {others : List α} :
    (first :: others).foldlM step outline = .ok after ↔
      ∃ middle, step outline first = .ok middle ∧ others.foldlM step middle = .ok after := by
  rw [List.foldlM_cons]
  cases step outline first with
  | error cause => simp [Bind.bind, Except.bind]
  | ok middle => simp [Bind.bind, Except.bind]

/-- A run over two lists is the run over the first and then that over the second. -/
theorem foldlM_append_eq_ok_iff {first second : List α} :
    (first ++ second).foldlM step outline = .ok after ↔
      ∃ middle, first.foldlM step outline = .ok middle ∧ second.foldlM step middle = .ok after := by
  rw [List.foldlM_append]
  cases first.foldlM step outline with
  | error cause => simp [Bind.bind, Except.bind]
  | ok middle => simp [Bind.bind, Except.bind]

/-- What every step keeps, a run keeps. -/
theorem foldlM_keeps {kept : Outline → Outline → Prop} (refl : ∀ outline, kept outline outline)
    (trans : ∀ {first middle last}, kept first middle → kept middle last → kept first last)
    {items : List α} (each : ∀ one ∈ items, ∀ {outline after : Outline},
      step outline one = .ok after → kept outline after)
    (done : items.foldlM step outline = .ok after) : kept outline after := by
  induction items generalizing outline with
  | nil =>
      cases done
      exact refl _
  | cons one others ih =>
      obtain ⟨middle, first, rest⟩ := foldlM_cons_eq_ok_iff.mp done
      apply trans (each one List.mem_cons_self first)
      apply ih _ rest
      intro other member
      exact each other (List.mem_cons_of_mem _ member)

/-- What one run does another does, if every step of the one is done by the other.  What the run
reaches in between is sound, since the outline grows up to there, and fits as the end does, since it
grows from there on. -/
theorem foldlM_simulates {β : Type} {stepMoved : Outline → β → Except ε Outline} {move : α → β}
    {items : List α} {within : Outline} (related : Outline → Outline → Prop)
    (fits : Outline → Prop)
    (earlier : ∀ {middle after : Outline}, middle.Grows after → fits after → fits middle)
    (grows : ∀ one ∈ items, ∀ {outline after : Outline},
      step outline one = .ok after → outline.Grows after)
    (each : ∀ one ∈ items, ∀ {outline within after : Outline}, related outline within →
      outline.Sound → fits after → step outline one = .ok after →
      ∃ inside, stepMoved within (move one) = .ok inside ∧ related after inside)
    (start : related outline within) (sound : outline.Sound) (fit : fits after)
    (done : items.foldlM step outline = .ok after) :
    ∃ inside, (items.map move).foldlM stepMoved within = .ok inside ∧ related after inside := by
  induction items generalizing outline within with
  | nil =>
      cases done
      exact ⟨within, rfl, start⟩
  | cons one others ih =>
      obtain ⟨middle, first, rest⟩ := foldlM_cons_eq_ok_iff.mp done
      have growsRest : ∀ other ∈ others, ∀ {outline after : Outline},
          step outline other = .ok after → outline.Grows after := fun other member =>
        grows other (List.mem_cons_of_mem _ member)
      have fitMiddle := earlier (foldlM_keeps Grows.refl Grows.trans growsRest rest) fit
      have soundMiddle := sound.grows (grows one List.mem_cons_self first)
      obtain ⟨between, firstInside, relatedMiddle⟩ :=
        each one List.mem_cons_self start sound fitMiddle first
      obtain ⟨inside, restInside, relatedAfter⟩ := ih growsRest
        (fun other member => each other (List.mem_cons_of_mem _ member)) relatedMiddle soundMiddle
        rest
      exact ⟨inside, foldlM_cons_eq_ok_iff.mpr ⟨between, firstInside, restInside⟩, relatedAfter⟩

end Fold

/-- The line of a fault has no effect on what is accepted. -/
theorem applyAll_eq_ok_iff {effects : List Effect} :
    outline.applyAll line effects = .ok after ↔
      effects.foldlM (fun current effect => current.apply line effect) outline = .ok after := by
  unfold applyAll
  cases effects.foldlM (fun current effect => Outline.apply current line effect) outline with
  | error cause =>
      constructor
      · intro done
        cases done
      · intro done
        cases done
  | ok middle =>
      constructor
      · intro done
        cases done
        rfl
      · intro done
        cases done
        rfl

theorem applyAll_grows {name : String} {effects : List Effect} (belong : MayHave name effects)
    (done : outline.applyAll line effects = .ok after) : outline.Grows after := by
  apply foldlM_keeps Grows.refl Grows.trans _ (applyAll_eq_ok_iff.mp done)
  intro effect member _ _ applied
  exact apply_grows (belong effect member) applied

theorem segment_grows {part : Segment} (done : outline.segment part = .ok after) :
    outline.Grows after := by
  cases part with
  | text run line =>
      cases done
      exact add_grows outline _
  | output body line => exact applyAll_grows (mayHave_ofOutput "" body) done
  | tag body line => exact applyAll_grows (mayHave_ofTag body) done
  | comment body line =>
      cases done
      exact Grows.refl _

theorem segments_grows {parts : List Segment} (done : outline.segments parts = .ok after) :
    outline.Grows after := by
  apply foldlM_keeps Grows.refl Grows.trans _ done
  intro part _ _ _ ran
  exact segment_grows ran

theorem applyAll_keepsParents {name : String} (other : name ≠ "extends") {effects : List Effect}
    (belong : MayHave name effects) (done : outline.applyAll line effects = .ok after) :
    outline.KeepsParents after := by
  apply foldlM_keeps KeepsParents.refl KeepsParents.trans _ (applyAll_eq_ok_iff.mp done)
  intro effect member _ _ applied
  exact apply_keepsParents other (belong effect member) applied

/-- Only an `extends` tag names a parent. -/
theorem segment_keepsParents {part : Segment} (done : outline.segment part = .ok after)
    (noTag : part.isExtendsTag = false) : outline.KeepsParents after := by
  cases part with
  | text run line =>
      cases done
      simp [KeepsParents, add, parents, Node.parent?]
  | output body line => exact applyAll_keepsParents (by decide) (mayHave_ofOutput "" body) done
  | tag body line =>
      have other : tagName body ≠ "extends" := by simpa [Segment.isExtendsTag] using noTag
      exact applyAll_keepsParents other (mayHave_ofTag body) done
  | comment body line =>
      cases done
      exact KeepsParents.refl _

theorem namesParent_segments {parts : List Segment} (done : outline.segments parts = .ok after)
    (noTag : parts.any Segment.isExtendsTag = false) :
    namesParent after.nodes = namesParent outline.nodes := by
  apply namesParent_congr
  apply foldlM_keeps KeepsParents.refl KeepsParents.trans _ done
  intro part member _ _ ran
  exact segment_keepsParents ran (by simpa using List.any_eq_false.mp noTag part member)

end Outline

end Lineage.Template
