import Lineage.Bytewise.Parser
import Lineage.Proofs.BlockNames
import Lineage.Proofs.BytewiseReads

/-!
# Steps by positions

An outline has a parser of its own: each open block has the index of the node with its name, and the
first `extends` tag the index of the node that names a parent (`placeOutline`).  Both indexes stay
what they are when nodes are added at the end or marked, so that every step of the parser finds at
an index what the step of the outline finds by name (`scan_place` and so on).
-/

namespace Lineage.Bytewise

open Lineage.Text Lineage.Template

/-- Whether a node is the block of the given name. -/
def isBlock (name : String) (node : Node) : Bool :=
  node.block?.any (·.name == name)

/-- The index of the node of a block. -/
def blockIndex (nodes : List Node) (name : String) : Nat :=
  nodes.findIdx (isBlock name)

/-- The line and the index of the first node that names a parent. -/
def extendsPlace? (nodes : List Node) : Option (Nat × Nat) :=
  (nodes.find? (·.parent?.isSome)).map fun node =>
    (node.line, nodes.findIdx (·.parent?.isSome))

/-- The frame with the index of its node. -/
def placeFrame (nodes : List Node) (frame : Frame) : PlacedFrame where
  frame := frame
  node? := frame.block?.map (blockIndex nodes)

/-- The outline with the indexes of its blocks and of its `extends` tag. -/
def placeOutline (outline : Outline) : Parser where
  nodes := outline.nodes
  frames := outline.frames.map (placeFrame outline.nodes)
  blockNames := blockNames outline.nodes
  extends? := extendsPlace? outline.nodes
  nestedExtends := outline.nestedExtends

theorem frames_placeOutline (outline : Outline) :
    (placeOutline outline).frames = outline.frames.map (placeFrame outline.nodes) :=
  rfl

/-- What holds of every outline that is reached: open blocks are defined, no block is defined twice,
and at most one node names a parent. -/
structure Valid (outline : Outline) : Prop where
  sound : outline.Sound
  distinct : (blockNames outline.nodes).Nodup
  single : (parents outline.nodes).length ≤ 1

/-! ## Nodes that are added or marked -/

section Indexes

variable {nodes more : List Node} {name : String}

theorem mem_blockNames_iff : name ∈ blockNames nodes ↔ ∃ node ∈ nodes, isBlock name node := by
  simp only [blockNames, isBlock, List.mem_filterMap, Option.map_eq_some_iff, Option.any_eq_true,
    beq_iff_eq]

theorem blockIndex_append (defined : name ∈ blockNames nodes) :
    blockIndex (nodes ++ more) name = blockIndex nodes name := by
  have found : nodes.findIdx (isBlock name) < nodes.length :=
    List.findIdx_lt_length.mpr (mem_blockNames_iff.mp defined)
  rw [blockIndex, List.findIdx_append, if_pos found]
  rfl

theorem blockIndex_map {change : Node → Node}
    (kept : ∀ node, isBlock name (change node) = isBlock name node) :
    blockIndex (nodes.map change) name = blockIndex nodes name := by
  rw [blockIndex, List.findIdx_map]
  congr 1
  funext node
  exact kept node

theorem isBlock_markSuper (block : String) (node : Node) :
    isBlock name (node.markSuper block) = isBlock name node := by
  cases node with
  | block site =>
      simp only [Node.markSuper, isBlock, Node.block?, Option.any_some]
      split <;> rfl
  | _ => rfl

theorem isBlock_addParent (expression : String) (node : Node) :
    isBlock name (node.addParent expression) = isBlock name node := by
  cases node <;> rfl

theorem extendsPlace?_append (plain : namesParent more = false) :
    extendsPlace? (nodes ++ more) = extendsPlace? nodes := by
  have none : more.find? (·.parent?.isSome) = none := by
    rw [List.find?_eq_none]
    simpa [namesParent] using plain
  rw [extendsPlace?, extendsPlace?, List.find?_append, none, Option.or_none]
  cases found : nodes.find? (·.parent?.isSome) with
  | none => rfl
  | some node =>
      have inside : nodes.findIdx (·.parent?.isSome) < nodes.length :=
        List.findIdx_lt_length.mpr
          ⟨node, List.mem_of_find?_eq_some found, by simpa using List.find?_some found⟩
      rw [Option.map_some, Option.map_some, List.findIdx_append, if_pos inside]

theorem extendsPlace?_map {change : Node → Node}
    (kept : ∀ node, (change node).parent?.isSome = node.parent?.isSome ∧
      (change node).line = node.line) :
    extendsPlace? (nodes.map change) = extendsPlace? nodes := by
  have same : (fun node : Node => node.parent?.isSome) ∘ change =
      fun node => node.parent?.isSome := funext fun node => (kept node).1
  rw [extendsPlace?, extendsPlace?, List.find?_map, List.findIdx_map, same, Option.map_map]
  congr 1
  funext node
  simp only [Function.comp, (kept node).2]

theorem extendsPlace?_markSuper (block : String) :
    extendsPlace? (nodes.map (Node.markSuper block)) = extendsPlace? nodes := by
  apply extendsPlace?_map
  intro node
  cases node with
  | block site =>
      simp only [Node.markSuper]
      split <;> exact ⟨rfl, rfl⟩
  | _ => exact ⟨rfl, rfl⟩

theorem extendsPlace?_addParent (expression : String) :
    extendsPlace? (nodes.map (Node.addParent expression)) = extendsPlace? nodes := by
  apply extendsPlace?_map
  intro node
  cases node <;> exact ⟨rfl, rfl⟩

theorem map_placeFrame_congr {frames : List Frame} {nodes' : List Node}
    (same : ∀ name ∈ openBlocks frames, blockIndex nodes' name = blockIndex nodes name) :
    frames.map (placeFrame nodes') = frames.map (placeFrame nodes) := by
  apply List.map_congr_left
  intro frame member
  rw [placeFrame, placeFrame]
  cases isBlock : frame.block? with
  | none => rfl
  | some name =>
      rw [Option.map_some, Option.map_some,
        same name (List.mem_filterMap.mpr ⟨frame, member, isBlock⟩)]

/-- A change of the one member that satisfies `p` is a change at its index. -/
theorem exists_set_findIdx {α : Type} {p : α → Bool} {change : α → α} {list : List α}
    (other : ∀ one, p one = false → change one = one) (once : list.countP p ≤ 1)
    (member : ∃ one ∈ list, p one = true) :
    ∃ one, list[list.findIdx p]? = some one ∧ p one = true ∧
      list.set (list.findIdx p) (change one) = list.map change := by
  induction list with
  | nil => obtain ⟨_, inside, _⟩ := member; cases inside
  | cons first rest ih =>
      rw [List.countP_cons] at once
      rw [List.findIdx_cons]
      cases satisfies : p first with
      | true =>
          rw [satisfies, if_pos rfl] at once
          have none : ∀ one ∈ rest, ¬ p one = true := List.countP_eq_zero.mp (by omega)
          have same : rest.map change = rest := by
            rw [List.map_congr_left (g := id) fun one inside =>
              other one (Bool.not_eq_true _ ▸ none one inside), List.map_id]
          exact ⟨first, rfl, satisfies, by simp [same]⟩
      | false =>
          rw [satisfies] at once
          have later : ∃ one ∈ rest, p one = true := by
            obtain ⟨one, inside, holds⟩ := member
            rcases List.mem_cons.mp inside with rfl | inside
            · rw [satisfies] at holds; cases holds
            · exact ⟨one, inside, holds⟩
          obtain ⟨one, here, holds, changed⟩ := ih (by simpa using once) later
          exact ⟨one, here, holds, by simp [other first satisfies, changed]⟩

theorem countP_isBlock (name : String) (nodes : List Node) :
    nodes.countP (isBlock name) = (blockNames nodes).count name := by
  rw [blockNames, List.count_filterMap]
  congr 1
  funext node
  rw [isBlock]
  cases node.block? <;> simp

/-- The block that is marked is the one at its index. -/
theorem exists_markSuper (distinct : (blockNames nodes).Nodup) (defined : name ∈ blockNames nodes) :
    ∃ site, nodes[blockIndex nodes name]? = some (.block site) ∧
      nodes.set (blockIndex nodes name) (.block { site with callsSuper := true }) =
        nodes.map (Node.markSuper name) := by
  have other : ∀ node, isBlock name node = false → node.markSuper name = node := by
    intro node noBlock
    cases node with
    | block site =>
        have otherName : site.name ≠ name := by simpa [isBlock, Node.block?] using noBlock
        rw [Node.markSuper, if_neg otherName]
    | _ => rfl
  have once : nodes.countP (isBlock name) ≤ 1 := by
    rw [countP_isBlock]
    exact List.nodup_iff_count.mp distinct name
  obtain ⟨node, here, isHere, changed⟩ :=
    exists_set_findIdx other once (mem_blockNames_iff.mp defined)
  cases node with
  | block site =>
      have sameName : site.name = name := by simpa [isBlock, Node.block?] using isHere
      rw [Node.markSuper, if_pos sameName] at changed
      exact ⟨site, here, changed⟩
  | _ => cases isHere

/-- The node that gets an alternative parent is the one at its index. -/
theorem exists_addParent (single : (parents nodes).length ≤ 1) (named : namesParent nodes = true)
    (expression : String) :
    ∃ node, nodes[nodes.findIdx (·.parent?.isSome)]? = some node ∧
      nodes.set (nodes.findIdx (·.parent?.isSome)) (node.addParent expression) =
        nodes.map (Node.addParent expression) := by
  have other : ∀ node : Node, node.parent?.isSome = false → node.addParent expression = node := by
    intro node noParent
    cases node with
    | «extends» parent line => cases noParent
    | _ => rfl
  have once : nodes.countP (·.parent?.isSome) ≤ 1 := by
    rwa [parents, List.length_filterMap_eq_countP] at single
  obtain ⟨node, here, _, changed⟩ :=
    exists_set_findIdx other once (List.any_eq_true.mp named)
  exact ⟨node, here, changed⟩

end Indexes

/-! ## Steps -/

section Steps

variable {outline after : Outline} {line : Nat} {opened : Opened} {names : List String}

theorem valid_empty : Valid .empty :=
  ⟨Outline.sound_empty, List.nodup_nil, Nat.zero_le 1⟩

/-- Every effect of a tag leaves a valid outline. -/
theorem Valid.apply (valid : Valid outline) {name : String} {effect : Effect}
    (belongs : effect.belongsTo name = true) (done : outline.apply line effect = .ok after) :
    Valid after where
  sound := valid.sound.grows (Outline.apply_grows belongs done)
  distinct := Outline.apply_keepsDistinct done valid.distinct
  single := by
    by_cases isExtend : ∃ expression, effect = .extend expression
    · obtain ⟨expression, rfl⟩ := isExtend
      rcases Outline.extend_eq_ok_iff.mp done with ⟨noParent, rfl⟩ | ⟨_, _, rfl⟩
      · change (parents (outline.nodes ++ [_])).length ≤ 1
        rw [parents_append, namesParent_eq_false_iff.mp noParent]
        exact Nat.le_refl 1
      · simpa [parents_addParent] using valid.single
    · have kept : parents after.nodes = parents outline.nodes :=
        Outline.apply_keepsParents_of_ne (fun expression same => isExtend ⟨expression, same⟩) done
      exact kept ▸ valid.single

/-- Reading leaves a valid outline. -/
theorem Valid.read (valid : Valid outline) {expression : Expression} {context : Context}
    (done : outline.read line expression context = .ok after) : Valid after :=
  have belongs : (Effect.read expression context).belongsTo "" = true := rfl
  valid.apply belongs done

/-- Binding names leaves a valid outline. -/
theorem Valid.bind (valid : Valid outline) (names : List String) :
    Valid (outline.bind line names) :=
  have belongs : (Effect.bind names).belongsTo "" = true := rfl
  valid.apply belongs rfl

/-- Closing the innermost structure leaves a valid outline. -/
theorem Valid.tail (valid : Valid outline) {frame : Frame} {frames : List Frame}
    (isOpen : outline.frames = frame :: frames) : Valid { outline with frames := frames } where
  sound := by
    apply valid.sound.grows (Outline.grows_of_frames _)
    rw [isOpen]
    exact (List.sublist_cons_self frame frames).filterMap _ |>.subset
  distinct := valid.distinct
  single := valid.single

/-- Opening a structure other than a block leaves a valid outline. -/
theorem Valid.enter (valid : Valid outline) {opened : Opened} (noBlock : opened.kind ≠ .block)
    (names : List String) : Valid (outline.enter line opened names) := by
  have belongs : (Effect.enter opened names).belongsTo opened.kind.keyword = true := by
    rw [Effect.belongsTo, beq_self_eq_true, Bool.and_true, bne_iff_ne]
    exact noBlock
  exact valid.apply belongs rfl

/-- Nodes that are neither blocks nor parents are added. -/
theorem add_place (valid : Valid outline) {more : List Node} (noBlocks : blockNames more = [])
    (noParent : namesParent more = false) :
    { placeOutline outline with nodes := outline.nodes ++ more } =
      placeOutline (outline.add more) := by
  have frames : outline.frames.map (placeFrame (outline.nodes ++ more)) =
      outline.frames.map (placeFrame outline.nodes) :=
    map_placeFrame_congr fun _ isOpen => blockIndex_append (valid.sound.opened isOpen)
  simp only [placeOutline, Outline.add, blockNames_append, noBlocks, List.append_nil, frames,
    extendsPlace?_append noParent]

theorem enter_place (noBlock : Frame.block? ⟨opened, line, names⟩ = none) :
    (placeOutline outline).enter line opened names =
      placeOutline (outline.enter line opened names) := by
  simp only [Parser.enter, placeOutline, Outline.enter, List.map_cons, placeFrame, noBlock,
    Option.map_none]

theorem bindInnermost?_place (nodes : List Node) (names : List String) (frames : List Frame) :
    Parser.bindInnermost? names (frames.map (placeFrame nodes)) =
      (bindInnermost? names frames).map (List.map (placeFrame nodes)) := by
  induction frames with
  | nil => rfl
  | cons frame frames ih =>
      have step : Parser.bindInnermost? names
            (placeFrame nodes frame :: frames.map (placeFrame nodes)) =
          if frame.opened.kind.holdsAssignments then
            some (placeFrame nodes { frame with bound := frame.bound ++ names } ::
              frames.map (placeFrame nodes))
          else (Parser.bindInnermost? names (frames.map (placeFrame nodes))).map
            (placeFrame nodes frame :: ·) := rfl
      rw [List.map_cons, step, ih, bindInnermost?]
      split
      · rfl
      · rw [Option.map_map, Option.map_map]
        rfl

theorem assign_place (valid : Valid outline) (names : List String) :
    (placeOutline outline).assign line names = placeOutline (outline.bind line names) := by
  rw [Parser.assign, Outline.bind, frames_placeOutline, bindInnermost?_place]
  cases bindInnermost? names outline.frames with
  | some frames => rfl
  | none =>
      apply add_place valid
      · rw [blockNames, List.filterMap_map]
        simp [Function.comp_def, Node.block?]
      · rw [namesParent, List.any_map]
        simp [Function.comp_def, Node.parent?]

theorem findSome?_node? (nodes : List Node) (frames : List Frame) :
    (frames.map (placeFrame nodes)).findSome? (·.node?) =
      (frames.findSome? Frame.block?).map (blockIndex nodes) := by
  induction frames with
  | nil => rfl
  | cons frame frames ih =>
      rw [List.map_cons, List.findSome?_cons, List.findSome?_cons, ih, placeFrame]
      cases frame.block? <;> rfl

theorem blockNames_reads (outline : Outline) (line : Nat) (expression : Expression)
    (context : Context) : blockNames (outline.reads line expression context) = [] := by
  rw [Outline.reads, blockNames, List.filterMap_map, List.filterMap_eq_nil_iff]
  exact fun _ _ => rfl

/-- A call of `super()` marks the innermost open block, which is at its index. -/
theorem markSuper_place (valid : Valid outline) :
    (placeOutline outline).markSuper =
      match outline.innermostBlock? with
      | none => throw .superOutsideBlock
      | some block => pure
        (placeOutline { outline with nodes := outline.nodes.map (Node.markSuper block) }) := by
  rw [Parser.markSuper, frames_placeOutline, findSome?_node?, Outline.innermostBlock?]
  cases isBlock : outline.frames.findSome? Frame.block? with
  | none => rfl
  | some block =>
      obtain ⟨frame, member, isFrame⟩ := List.exists_of_findSome?_eq_some isBlock
      have defined := valid.sound.opened (List.mem_filterMap.mpr ⟨frame, member, isFrame⟩)
      obtain ⟨site, here, changed⟩ := exists_markSuper valid.distinct defined
      have inside : blockIndex outline.nodes block < outline.nodes.length :=
        (List.getElem?_eq_some_iff.mp here).1
      have frames : outline.frames.map
            (placeFrame (outline.nodes.map (Node.markSuper block))) =
          outline.frames.map (placeFrame outline.nodes) :=
        map_placeFrame_congr fun _ _ => blockIndex_map (isBlock_markSuper block)
      have set : set? outline.nodes (blockIndex outline.nodes block)
          (.block { site with callsSuper := true }) =
            some (outline.nodes.map (Node.markSuper block)) := by
        rw [set?, if_pos inside, changed]
      simp only [Option.map_some, placeOutline, here, set, liftM_some, pure_bind, frames,
        extendsPlace?_markSuper, blockNames_markSuper]

theorem Valid.markSuper (valid : Valid outline) (block : String) :
    Valid { outline with nodes := outline.nodes.map (Node.markSuper block) } where
  sound.opened := by simpa using valid.sound.opened
  sound.nested := by simpa using valid.sound.nested
  distinct := by simpa using valid.distinct
  single := by simpa using valid.single

/-- A part of an expression is read by positions as it is read. -/
theorem scan_place (valid : Valid outline) {source : List Char} {tokens : List Token}
    (fits : Fits source tokens) (context : Context) :
    (placeOutline outline).scan line source (tokens.map (place source)) context =
      settled ((outline.read line ⟨source, tokens⟩ context).map placeOutline) := by
  have bound : (placeOutline outline).frames.flatMap (·.frame.bound) = outline.bound :=
    List.flatMap_map _ _ _
  have tests : ∀ name, (placeOutline outline).frames.any (·.frame.tests name) =
      outline.isTested name := fun name =>
    List.any_map
  have found := scan_eq fits context outline.bound
  rw [Parser.scan, bound, found]
  simp only [liftM_some, pure_bind, tests]
  generalize isExpression : (⟨source, tokens⟩ : Expression) = expression
  have noBlocks := blockNames_reads outline line expression context
  have noParent : namesParent (outline.reads line expression context) = false :=
    Outline.namesParent_reads expression context
  rw [Outline.read]
  cases calls : expression.callsSuper with
  | false => exact congrArg (pure (f := Checked Template.Cause)) (add_place valid noBlocks noParent)
  | true =>
      simp only [if_true, markSuper_place valid]
      cases outline.innermostBlock? with
      | none => rfl
      | some block =>
          exact congrArg (pure (f := Checked Template.Cause))
            (add_place (valid.markSuper block) noBlocks noParent)

end Steps

end Lineage.Bytewise
