import Lineage.Proofs.Concatenation
import Mathlib.Data.List.Forall2

/-!
# A body inside a structure

The same body is read alone and inside an open structure, the frame `outer`.  What the structure
changes is told node by node (`Frame.shows`): a name that it binds is not read, a bare read of a
name that its branch tests is conditional, and if it holds assignments, an assignment leaves no node
but binds its name from there on.

`Outline.Enclosed` relates the two outlines.  Every effect keeps the relation, as long as no parent
is named and no block is defined that stands in front of the body already, and so does every run of
segments (`segments_enclosed`).  The open structures of the body agree on both sides other than in
the tests of names that the structure binds, which are not read any more.
-/

namespace Lineage.Template

open Lineage.Text

/-! ## What an open structure does to nodes -/

/-- The node, in which a bare read of a tested name is conditional. -/
def Node.guarded (tested : String → Bool) : Node → Node
  | .read name guard line =>
    .read name (if guard = .bare && tested name then .conditional else guard) line
  | node => node

/-- Where nothing is tested, no read is guarded. -/
theorem guarded_of_not : Node.guarded (fun _ => false) = id := by
  funext node
  cases node <;> simp [Node.guarded]

/-- The structure behind nodes of its body: if it holds assignments, it binds what they assign. -/
def Frame.behind (outer : Frame) (nodes : List Node) : Frame :=
  if outer.opened.kind.holdsAssignments then
    { outer with bound := outer.bound ++ nodes.filterMap Node.assign? }
  else outer

/-- The node that is left of a node directly inside the structure. -/
def Frame.shown? (outer : Frame) : Node → Option Node
  | .assign name line =>
    if outer.opened.kind.holdsAssignments then none else some (.assign name line)
  | .read name guard line =>
    if outer.bound.contains name then none
    else some ((Node.read name guard line).guarded outer.tests)
  | node => some node

/-- What is left of the nodes of a body inside the structure. -/
def Frame.shows (outer : Frame) : List Node → List Node
  | [] => []
  | node :: nodes => (outer.shown? node).toList ++ (outer.behind [node]).shows nodes

namespace Frame

variable {outer : Frame}

theorem behind_nil (outer : Frame) : outer.behind [] = outer := by
  unfold behind
  split
  · rw [List.filterMap_nil, List.append_nil]
  · rfl

@[simp]
theorem opened_behind (outer : Frame) (nodes : List Node) :
    (outer.behind nodes).opened = outer.opened := by
  unfold behind
  split <;> rfl

@[simp]
theorem tests_behind (outer : Frame) (nodes : List Node) :
    (outer.behind nodes).tests = outer.tests := by
  funext name
  rw [tests, opened_behind, tests]

@[simp]
theorem block?_behind (outer : Frame) (nodes : List Node) :
    (outer.behind nodes).block? = outer.block? := by
  rw [block?, opened_behind, block?]

theorem behind_append (outer : Frame) (first second : List Node) :
    outer.behind (first ++ second) = (outer.behind first).behind second := by
  by_cases holds : outer.opened.kind.holdsAssignments = true
  · simp [behind, holds]
  · simp [behind, holds]

theorem shows_append (outer : Frame) (first second : List Node) :
    outer.shows (first ++ second) = outer.shows first ++ (outer.behind first).shows second := by
  induction first generalizing outer with
  | nil => rw [behind_nil]; rfl
  | cons node first ih =>
      have front : node :: first = [node] ++ first := rfl
      rw [front, behind_append, List.append_assoc, List.singleton_append, List.singleton_append,
        shows, shows, ih, List.append_assoc]

/-- Nodes that assign nothing leave the structure as it is. -/
theorem behind_of_quiet {nodes : List Node} (quiet : nodes.filterMap Node.assign? = [])
    (outer : Frame) : outer.behind nodes = outer := by
  unfold behind
  rw [quiet, List.append_nil]
  split <;> rfl

theorem shows_of_quiet {nodes : List Node} (quiet : nodes.filterMap Node.assign? = [])
    (outer : Frame) : outer.shows nodes = nodes.filterMap outer.shown? := by
  induction nodes with
  | nil => rfl
  | cons node nodes ih =>
      have silent : [node].filterMap Node.assign? = [] ∧ nodes.filterMap Node.assign? = [] := by
        rw [← List.singleton_append, List.filterMap_append] at quiet
        exact List.append_eq_nil_iff.mp quiet
      rw [shows, behind_of_quiet silent.1, ih silent.2, List.filterMap_cons]
      cases outer.shown? node <;> rfl

/-- The nodes of assignments. -/
theorem filterMap_assigns (names : List String) (line : Nat) :
    (names.map (Node.assign · line)).filterMap Node.assign? = names := by
  rw [List.filterMap_map]
  exact List.filterMap_some

theorem shows_assigns (outer : Frame) (names : List String) (line : Nat) :
    outer.shows (names.map (Node.assign · line)) =
      if outer.opened.kind.holdsAssignments then [] else names.map (Node.assign · line) := by
  induction names generalizing outer with
  | nil => split <;> rfl
  | cons name names ih =>
      rw [List.map_cons, shows, ih, opened_behind, shown?]
      split <;> rfl

/-! What a mark does to a node does not depend on the structure around it. -/

theorem shown?_markSuper (outer : Frame) (name : String) (node : Node) :
    outer.shown? (node.markSuper name) = (outer.shown? node).map (Node.markSuper name) := by
  cases node with
  | assign own line =>
      simp only [Node.markSuper, shown?]
      split <;> rfl
  | read own guard line =>
      simp only [Node.markSuper, shown?]
      split <;> rfl
  | _ => rfl

theorem behind_markSuper (outer : Frame) (name : String) (nodes : List Node) :
    outer.behind (nodes.map (Node.markSuper name)) = outer.behind nodes := by
  have kept : Node.assign? ∘ Node.markSuper name = Node.assign? := by
    funext node
    cases node <;> rfl
  rw [behind, behind, List.filterMap_map, kept]

theorem shows_markSuper (outer : Frame) (name : String) (nodes : List Node) :
    outer.shows (nodes.map (Node.markSuper name)) =
      (outer.shows nodes).map (Node.markSuper name) := by
  induction nodes generalizing outer with
  | nil => rfl
  | cons node nodes ih =>
      have same : outer.behind [node.markSuper name] = outer.behind [node] :=
        behind_markSuper outer name [node]
      rw [List.map_cons, shows, shows, shown?_markSuper, same, ih, List.map_append]
      cases outer.shown? node <;> rfl

/-- What is neither read nor assigned is shown. -/
theorem filterMap_shows {α : Type} {view : Node → Option α}
    (noRead : ∀ name guard line, view (.read name guard line) = none)
    (noAssign : ∀ name line, view (.assign name line) = none) (outer : Frame)
    (nodes : List Node) : (outer.shows nodes).filterMap view = nodes.filterMap view := by
  induction nodes generalizing outer with
  | nil => rfl
  | cons node nodes ih =>
      have kept : (outer.shown? node).toList.filterMap view = [node].filterMap view := by
        cases node with
        | assign name line =>
            simp only [shown?]
            split <;> simp [noAssign]
        | read name guard line =>
            simp only [shown?]
            split <;> simp [Node.guarded, noRead]
        | _ => rfl
      rw [shows, List.filterMap_append, kept, ih, ← List.filterMap_append]
      rfl

@[simp]
theorem blockNames_shows (outer : Frame) (nodes : List Node) :
    blockNames (outer.shows nodes) = blockNames nodes :=
  filterMap_shows (fun _ _ _ => rfl) (fun _ _ => rfl) outer nodes

/-- A structure names no parent. -/
theorem namesParent_shows (outer : Frame) (nodes : List Node) :
    namesParent (outer.shows nodes) = namesParent nodes := by
  have parents : (outer.shows nodes).filterMap Node.parent? = nodes.filterMap Node.parent? :=
    filterMap_shows (fun _ _ _ => rfl) (fun _ _ => rfl) outer nodes
  rw [namesParent, ← List.isSome_findSome?, ← List.head?_filterMap, parents,
    List.head?_filterMap, List.isSome_findSome?, namesParent]

end Frame

/-! ## Structures that agree -/

/-- Two open structures agree other than in the tests of hidden names. -/
inductive Opened.Alike (hidden : List String) : Opened → Opened → Prop
  | same (opened : Opened) : Alike hidden opened opened
  | tests {tested others : List String} (inElse : Bool)
      (agree : ∀ name ∉ hidden, tested.contains name = others.contains name) :
      Alike hidden (.conditional tested inElse) (.conditional others inElse)

/-- Two frames agree other than in the tests of hidden names, and one is some line breaks further
down. -/
structure Frame.Alike (hidden : List String) (breaks : Nat) (frame inner : Frame) : Prop where
  opened : frame.opened.Alike hidden inner.opened
  line : inner.line = frame.line + breaks
  bound : inner.bound = frame.bound

variable {hidden more names : List String} {breaks : Nat}

theorem Opened.Alike.kind_eq {one other : Opened} (alike : one.Alike hidden other) :
    other.kind = one.kind := by
  cases alike <;> rfl

/-- What is alike to a branch of a condition is a branch of one. -/
theorem Opened.Alike.branch {tested : List String} {inElse : Bool} {other : Opened}
    (alike : (Opened.conditional tested inElse).Alike hidden other) :
    ∃ others, other = .conditional others inElse := by
  cases alike with
  | same => exact ⟨_, rfl⟩
  | tests _ agree => exact ⟨_, rfl⟩

namespace Frame.Alike

variable {frame inner : Frame} {frames inners : List Frame}

theorem mono (alike : frame.Alike hidden breaks inner) (subset : hidden ⊆ more) :
    frame.Alike more breaks inner where
  opened := by
    obtain ⟨opened, begun, names⟩ := frame
    obtain ⟨other, started, others⟩ := inner
    cases alike.opened with
    | same => exact .same opened
    | tests inElse agree =>
        exact .tests inElse fun name notMore => agree name fun member => notMore (subset member)
  line := alike.line
  bound := alike.bound

theorem block?_eq (alike : frame.Alike hidden breaks inner) : inner.block? = frame.block? := by
  obtain ⟨opened, begun, names⟩ := frame
  obtain ⟨other, started, others⟩ := inner
  cases alike.opened <;> rfl

theorem tests_eq (alike : frame.Alike hidden breaks inner) {name : String}
    (visible : name ∉ hidden) : inner.tests name = frame.tests name := by
  obtain ⟨opened, begun, names⟩ := frame
  obtain ⟨other, started, others⟩ := inner
  cases alike.opened with
  | same => rfl
  | tests inElse agree => simp only [Frame.tests, agree name visible]

theorem flatMap_bound (alike : frames.Forall₂ (Frame.Alike hidden breaks) inners) :
    inners.flatMap Frame.bound = frames.flatMap Frame.bound := by
  induction alike with
  | nil => rfl
  | cons first _ ih => rw [List.flatMap_cons, List.flatMap_cons, first.bound, ih]

theorem findSome?_block? (alike : frames.Forall₂ (Frame.Alike hidden breaks) inners) :
    inners.findSome? Frame.block? = frames.findSome? Frame.block? := by
  induction alike with
  | nil => rfl
  | cons first _ ih => rw [List.findSome?_cons, List.findSome?_cons, first.block?_eq, ih]

theorem any_tests (alike : frames.Forall₂ (Frame.Alike hidden breaks) inners) {name : String}
    (visible : name ∉ hidden) :
    inners.any (Frame.tests · name) = frames.any (Frame.tests · name) := by
  induction alike with
  | nil => rfl
  | cons first _ ih => rw [List.any_cons, List.any_cons, first.tests_eq visible, ih]

/-- Names that are bound in the body are bound in the same of its structures. -/
theorem bindInnermost?_eq_some (alike : frames.Forall₂ (Frame.Alike hidden breaks) inners)
    {bound : List Frame} (binds : bindInnermost? names frames = some bound) (rest : List Frame) :
    ∃ innerBound, bindInnermost? names (inners ++ rest) = some (innerBound ++ rest) ∧
      bound.Forall₂ (Frame.Alike hidden breaks) innerBound := by
  induction alike generalizing bound with
  | nil => cases binds
  | @cons frame inner frames inners first others ih =>
      rw [bindInnermost?] at binds
      rw [List.cons_append, bindInnermost?, first.opened.kind_eq]
      split at binds
      · rename_i holds
        cases binds
        refine ⟨{ inner with bound := inner.bound ++ names } :: inners, ?_, ?_⟩
        · rw [if_pos holds, List.cons_append]
        · exact .cons ⟨first.opened, first.line, by rw [first.bound]⟩ others
      · rename_i passes
        obtain ⟨later, isLater, rfl⟩ := Option.map_eq_some_iff.mp binds
        obtain ⟨innerLater, found, alikeLater⟩ := ih isLater
        refine ⟨inner :: innerLater, ?_, .cons first alikeLater⟩
        rw [if_neg passes, found]
        rfl

theorem bindInnermost?_eq_none (alike : frames.Forall₂ (Frame.Alike hidden breaks) inners)
    (binds : bindInnermost? names frames = none) (rest : List Frame) :
    bindInnermost? names (inners ++ rest) = (bindInnermost? names rest).map (inners ++ ·) := by
  induction alike with
  | nil => simp
  | @cons frame inner frames inners first others ih =>
      rw [bindInnermost?] at binds
      rw [List.cons_append, bindInnermost?, first.opened.kind_eq]
      split at binds
      · cases binds
      · rename_i passes
        rw [if_neg passes, ih (Option.map_eq_none_iff.mp binds), Option.map_map]
        rfl

/-- A new test of the innermost structure of the body leaves those around it alone. -/
theorem retest {tested others : List String}
    (alike : frames.Forall₂ (Frame.Alike hidden breaks) inners) (isOpen : frames ≠ [])
    (agree : ∀ name ∉ hidden, tested.contains name = others.contains name) (rest : List Frame) :
    ∃ innerTested, retest others (inners ++ rest) = innerTested ++ rest ∧
      (Template.retest tested frames).Forall₂ (Frame.Alike hidden breaks) innerTested := by
  cases alike with
  | nil => contradiction
  | @cons frame inner frames inners first later =>
      obtain ⟨opened, begun, names⟩ := frame
      obtain ⟨other, started, innerNames⟩ := inner
      obtain ⟨isAlike, sameLine, sameBound⟩ := first
      cases isAlike with
      | same =>
          cases opened with
          | conditional old inElse =>
              refine ⟨⟨.conditional others inElse, started, innerNames⟩ :: inners, rfl, ?_⟩
              exact .cons ⟨.tests inElse agree, sameLine, sameBound⟩ later
          | _ =>
              exact ⟨⟨_, started, innerNames⟩ :: inners, rfl,
                .cons ⟨.same _, sameLine, sameBound⟩ later⟩
      | @tests old oldOther inElse _ =>
          refine ⟨⟨.conditional others inElse, started, innerNames⟩ :: inners, rfl, ?_⟩
          exact .cons ⟨.tests inElse agree, sameLine, sameBound⟩ later

end Frame.Alike

/-! ## Reads under more bindings -/

theorem isRead_append (context : Context) (bound hidden : List String) (before : List Token)
    (name : String) (rest : List Token) :
    isRead context (bound ++ hidden) before name rest =
      (isRead context bound before name rest && !hidden.contains name) := by
  simp only [isRead, List.contains_append, Bool.not_or, Bool.and_assoc]

theorem occurrencesFrom_append (source : List Char) (context : Context) (bound hidden : List String)
    (conditions : List InlineCondition) (before tokens : List Token) :
    occurrencesFrom source context (bound ++ hidden) conditions before tokens =
      (occurrencesFrom source context bound conditions before tokens).filter
        (!hidden.contains ·.name) := by
  induction tokens generalizing before with
  | nil => rfl
  | cons token rest ih =>
      simp only [occurrencesFrom, ih]
      cases token.word? with
      | none => rfl
      | some name =>
          simp only [isRead_append]
          cases isRead context bound before name rest with
          | false => rfl
          | true =>
              simp only [Bool.true_and, if_true, List.filter_cons]

/-- What else is bound around an expression takes reads of the bound names away, and no others. -/
theorem Expression.occurrences_append (expression : Expression) (context : Context)
    (bound hidden : List String) : expression.occurrences context (bound ++ hidden) =
      (expression.occurrences context bound).filter (!hidden.contains ·.name) :=
  occurrencesFrom_append _ _ _ _ _ _ _

namespace Outline

/-! ## An outline inside a structure -/

/-- The outline `within` is the outline `outline` of a body inside the structure `outer`, behind the
nodes `before` and some line breaks further down. -/
structure Enclosed (before : List Node) (outer : Frame) (breaks : Nat) (outline within : Outline) :
    Prop where
  nodes : within.nodes = before ++ (outer.shows outline.nodes).map (Node.later breaks)
  frames : ∃ inners, within.frames = inners ++ [outer.behind outline.nodes] ∧
    outline.frames.Forall₂ (Frame.Alike (outer.behind outline.nodes).bound breaks) inners

variable {before : List Node} {outer : Frame} {breaks line : Nat}
  {outline within after : Outline}

/-- A body begins directly inside the structure. -/
theorem enclosed_empty (nodes : within.nodes = before) (frames : within.frames = [outer]) :
    Enclosed before outer breaks empty within where
  nodes := by rw [nodes]; exact (List.append_nil before).symm
  frames := ⟨[], by rw [frames]; exact congrArg ([·]) (Frame.behind_nil outer).symm, .nil⟩

/-- Reads assign nothing. -/
theorem reads_quiet (outline : Outline) (line : Nat) (expression : Expression)
    (context : Context) :
    (outline.reads line expression context).filterMap Node.assign? = [] := by
  simp [reads, readNode, Node.assign?]

namespace Enclosed

theorem bound_eq (enclosed : Enclosed before outer breaks outline within) :
    within.bound = outline.bound ++ (outer.behind outline.nodes).bound := by
  obtain ⟨inners, frames, alike⟩ := enclosed.frames
  rw [bound, frames, List.flatMap_append, Frame.Alike.flatMap_bound alike]
  simp [bound]

theorem innermostBlock?_eq (enclosed : Enclosed before outer breaks outline within)
    (noBlock : outer.block? = none) : within.innermostBlock? = outline.innermostBlock? := by
  obtain ⟨inners, frames, alike⟩ := enclosed.frames
  rw [innermostBlock?, frames, List.findSome?_append, Frame.Alike.findSome?_block? alike]
  simp [innermostBlock?, noBlock]

theorem isTested_eq (enclosed : Enclosed before outer breaks outline within) {name : String}
    (visible : name ∉ (outer.behind outline.nodes).bound) :
    within.isTested name = (outline.isTested name || outer.tests name) := by
  obtain ⟨inners, frames, alike⟩ := enclosed.frames
  rw [isTested, frames, List.any_append, Frame.Alike.any_tests alike visible]
  simp [isTested]

/-- A read inside the structure is what the structure shows of it. -/
theorem readNode_eq (enclosed : Enclosed before outer breaks outline within) (line : Nat)
    {occurrence : Occurrence} (visible : occurrence.name ∉ (outer.behind outline.nodes).bound) :
    some (within.readNode (line + breaks) occurrence) =
      ((outer.behind outline.nodes).shown? (outline.readNode line occurrence)).map
        (Node.later breaks) := by
  have notBound : (outer.behind outline.nodes).bound.contains occurrence.name = false := by
    simpa using visible
  simp only [readNode, enclosed.isTested_eq visible, Frame.shown?, notBound, Bool.false_eq_true,
    if_false, Option.map_some, Node.guarded, Node.later, Frame.tests_behind]
  by_cases bare : occurrence.guard = .bare
  · cases outline.isTested occurrence.name <;> simp [bare]
  · simp [bare]

theorem reads_eq (enclosed : Enclosed before outer breaks outline within) (line : Nat)
    (expression : Expression) (context : Context) :
    within.reads (line + breaks) expression context =
      ((outer.behind outline.nodes).shows (outline.reads line expression context)).map
        (Node.later breaks) := by
  rw [Frame.shows_of_quiet (reads_quiet _ _ _ _), reads, reads, enclosed.bound_eq,
    Expression.occurrences_append]
  induction expression.occurrences context outline.bound with
  | nil => rfl
  | cons occurrence occurrences ih =>
      rw [List.map_cons, List.filterMap_cons, List.filter_cons]
      by_cases hidden : occurrence.name ∈ (outer.behind outline.nodes).bound
      · have notShown : (outer.behind outline.nodes).shown? (outline.readNode line occurrence) =
            none := by
          simp [readNode, Frame.shown?, hidden]
        simp only [List.contains_iff_mem.mpr hidden, Bool.not_true, Bool.false_eq_true, if_false,
          notShown]
        exact ih
      · have shown := enclosed.readNode_eq line hidden
        have notBound : (!(outer.behind outline.nodes).bound.contains occurrence.name) = true := by
          simpa using hidden
        obtain ⟨node, isShown, isRead⟩ := Option.map_eq_some_iff.mp shown.symm
        rw [if_pos notBound, List.map_cons, ih, isShown, ← isRead]
        rfl

/-! ## Effects inside a structure -/

/-- The relation when the nodes grow and the open structures stay. -/
theorem add (enclosed : Enclosed before outer breaks outline within) {nodes : List Node}
    (quiet : nodes.filterMap Node.assign? = []) :
    Enclosed before outer breaks (outline.add nodes) (within.add
      (((outer.behind outline.nodes).shows nodes).map (Node.later breaks))) where
  nodes := by
    simp only [Outline.add, enclosed.nodes, Frame.shows_append, List.map_append, List.append_assoc]
  frames := by
    have same : outer.behind (outline.nodes ++ nodes) = outer.behind outline.nodes := by
      rw [Frame.behind_append, Frame.behind_of_quiet quiet]
    simp only [Outline.add, same]
    exact enclosed.frames

/-- A call of `super()` marks a block of the body. -/
theorem mark (enclosed : Enclosed before outer breaks outline within) {block : String}
    (other : block ∉ blockNames before) :
    Enclosed before outer breaks { outline with nodes := outline.nodes.map (Node.markSuper block) }
      { within with nodes := within.nodes.map (Node.markSuper block) } where
  nodes := by
    simp only [enclosed.nodes, List.map_append, map_markSuper_of_notMem other, markSuper_later,
      Frame.shows_markSuper]
  frames := by
    simp only [Frame.behind_markSuper]
    exact enclosed.frames

theorem read {expression : Expression} {context : Context}
    (enclosed : Enclosed before outer breaks outline within) (noBlock : outer.block? = none)
    (sound : outline.Sound) (apart : (blockNames before).Disjoint (blockNames outline.nodes))
    (done : outline.read line expression context = .ok after) :
    ∃ inside, within.read (line + breaks) expression context = .ok inside ∧
      Enclosed before outer breaks after inside := by
  have quiet := reads_quiet outline line expression context
  have reads := enclosed.reads_eq line expression context
  rcases read_eq_ok_iff.mp done with ⟨silent, rfl⟩ | ⟨calls, block, innermost, rfl⟩
  · refine ⟨_, read_eq_ok_iff.mpr (Or.inl ⟨silent, rfl⟩), ?_⟩
    rw [reads]
    exact enclosed.add quiet
  · have isOpen : block ∈ openBlocks outline.frames := by
      obtain ⟨frame, member, isBlock⟩ := List.exists_of_findSome?_eq_some innermost
      exact List.mem_filterMap.mpr ⟨frame, member, isBlock⟩
    have other : block ∉ blockNames before := fun defined =>
      apart defined (sound.opened isOpen)
    have sameBlock := (enclosed.innermostBlock?_eq noBlock).trans innermost
    refine ⟨_, read_eq_ok_iff.mpr (Or.inr ⟨calls, block, sameBlock, rfl⟩), ?_⟩
    have marked := (enclosed.mark other).add quiet
    simp only [Frame.behind_markSuper] at marked
    rw [reads]
    exact marked

/-- Reading an expression opens nothing and binds nothing. -/
theorem read_keeps {expression : Expression} {context : Context} (outer : Frame)
    (done : outline.read line expression context = .ok after) :
    after.frames = outline.frames ∧ outer.behind after.nodes = outer.behind outline.nodes := by
  have quiet := reads_quiet outline line expression context
  rcases read_eq_ok_iff.mp done with ⟨_, rfl⟩ | ⟨_, block, _, rfl⟩
  · exact ⟨rfl, by rw [Outline.add, Frame.behind_append, Frame.behind_of_quiet quiet]⟩
  · exact ⟨rfl, by rw [Frame.behind_append, Frame.behind_of_quiet quiet, Frame.behind_markSuper]⟩

theorem test {expression : Expression} (enclosed : Enclosed before outer breaks outline within)
    (noBlock : outer.block? = none) (sound : outline.Sound)
    (apart : (blockNames before).Disjoint (blockNames outline.nodes))
    (isOpen : outline.frames ≠ []) (done : outline.test line expression = .ok after) :
    ∃ inside, within.test (line + breaks) expression = .ok inside ∧
      Enclosed before outer breaks after inside := by
  obtain ⟨middle, isRead, rfl⟩ := test_eq_ok_iff.mp done
  obtain ⟨inside, isReadInside, enclosedMiddle⟩ := enclosed.read noBlock sound apart isRead
  obtain ⟨sameFrames, sameBound⟩ := read_keeps outer isRead
  refine ⟨_, test_eq_ok_iff.mpr ⟨inside, isReadInside, rfl⟩, ⟨enclosedMiddle.nodes, ?_⟩⟩
  obtain ⟨inners, frames, alike⟩ := enclosedMiddle.frames
  rw [enclosed.bound_eq, Expression.occurrences_append, frames]
  apply Frame.Alike.retest alike (by rwa [sameFrames])
  -- A test inside the structure lacks the names that the structure binds, and no others.
  intro name visible
  rw [sameBound] at visible
  rw [Bool.eq_iff_iff, List.contains_iff_mem, List.contains_iff_mem, List.mem_map, List.mem_map]
  constructor
  · rintro ⟨occurrence, member, rfl⟩
    exact ⟨occurrence, List.mem_filter.mpr ⟨member, by simpa using visible⟩, rfl⟩
  · rintro ⟨occurrence, member, rfl⟩
    exact ⟨occurrence, (List.mem_filter.mp member).1, rfl⟩

/-- Names are bound in the body, by the structure or, if it holds no assignments, around it. -/
theorem bind (enclosed : Enclosed before outer breaks outline within) (names : List String) :
    Enclosed before outer breaks (outline.bind line names) (within.bind (line + breaks) names) := by
  obtain ⟨inners, frames, alike⟩ := enclosed.frames
  unfold Outline.bind
  cases binds : bindInnermost? names outline.frames with
  | some bound =>
      obtain ⟨innerBound, found, alikeBound⟩ := Frame.Alike.bindInnermost?_eq_some alike binds
        [outer.behind outline.nodes]
      rw [frames, found]
      exact ⟨enclosed.nodes, innerBound, rfl, alikeBound⟩
  | none =>
      rw [frames, Frame.Alike.bindInnermost?_eq_none alike binds, bindInnermost?,
        Frame.opened_behind]
      have assigned := Frame.filterMap_assigns names line
      by_cases holds : outer.opened.kind.holdsAssignments = true
      · have grown : outer.behind (outline.nodes ++ names.map (Node.assign · line)) =
            ⟨outer.opened, (outer.behind outline.nodes).line,
              (outer.behind outline.nodes).bound ++ names⟩ := by
          rw [Frame.behind_append, Frame.behind, Frame.opened_behind, if_pos holds, assigned]
        rw [if_pos holds]
        refine ⟨?_, inners, ?_, ?_⟩
        · simp only [Outline.add, Frame.shows_append, Frame.shows_assigns, Frame.opened_behind,
            if_pos holds, List.append_nil]
          exact enclosed.nodes
        · simp only [Outline.add, grown]
          rfl
        · simp only [Outline.add, grown]
          exact alike.imp fun _ _ one => one.mono (List.subset_append_left _ _)
      · have same : outer.behind (outline.nodes ++ names.map (Node.assign · line)) =
            outer.behind outline.nodes := by
          rw [Frame.behind_append, Frame.behind, Frame.opened_behind, if_neg holds]
        rw [if_neg holds]
        refine ⟨?_, inners, ?_, ?_⟩
        · simp only [bindInnermost?, Option.map_none, Outline.add, Frame.shows_append,
            Frame.shows_assigns, Frame.opened_behind, if_neg holds, enclosed.nodes,
            List.map_append, List.map_map, List.append_assoc]
          rfl
        · simp only [bindInnermost?, Option.map_none, Outline.add, same]
          exact frames
        · simp only [Outline.add, same]
          exact alike

theorem release (enclosed : Enclosed before outer breaks outline within) {opened other : Opened}
    {hidden : List String} (alike : opened.Alike hidden other) :
    Enclosed before outer breaks (outline.release line opened)
      (within.release (line + breaks) other) := by
  cases alike with
  | tests inElse agree => exact enclosed
  | same =>
      cases opened with
      | capture names => exact enclosed.bind names
      | _ => exact enclosed

theorem enter (enclosed : Enclosed before outer breaks outline within) (opened : Opened)
    (names : List String) : Enclosed before outer breaks (outline.enter line opened names)
      (within.enter (line + breaks) opened names) where
  nodes := enclosed.nodes
  frames := by
    obtain ⟨inners, frames, alike⟩ := enclosed.frames
    refine ⟨⟨opened, line + breaks, names⟩ :: inners, ?_, .cons ⟨.same opened, rfl, rfl⟩ alike⟩
    simp only [Outline.enter, frames, List.cons_append]

theorem define {name : String} (enclosed : Enclosed before outer breaks outline within)
    (noBlock : outer.block? = none) (apart : (blockNames before).Disjoint (blockNames after.nodes))
    (done : outline.define line name = .ok after) :
    ∃ inside, within.define (line + breaks) name = .ok inside ∧
      Enclosed before outer breaks after inside := by
  obtain ⟨new, rfl⟩ := define_eq_ok_iff.mp done
  have notBefore : name ∉ blockNames before := by
    intro defined
    apply apart defined
    simp [Outline.enter, Outline.add, blockNames, Node.block?]
  refine ⟨_, define_eq_ok_iff.mpr ⟨?_, rfl⟩, ?_⟩
  · rw [enclosed.nodes, blockNames_append, blockNames_later, Frame.blockNames_shows,
      List.mem_append]
    exact not_or.mpr ⟨notBefore, new⟩
  · rw [enclosed.innermostBlock?_eq noBlock]
    have quiet : [Node.block ⟨name, false, outline.innermostBlock?, line⟩].filterMap
        Node.assign? = [] := rfl
    exact (enclosed.add quiet).enter _ _

theorem leave {expected : Structure} (enclosed : Enclosed before outer breaks outline within)
    (done : outline.leave line expected = .ok after) :
    ∃ inside, within.leave (line + breaks) expected = .ok inside ∧
      Enclosed before outer breaks after inside := by
  obtain ⟨frame, frames, isOpen, kind, rfl⟩ := leave_eq_ok_iff.mp done
  obtain ⟨inners, framesInside, alike⟩ := enclosed.frames
  rw [isOpen] at alike
  cases alike with
  | @cons _ inner _ inners first others =>
      refine ⟨_, leave_eq_ok_iff.mpr ⟨inner, _, framesInside, ?_, rfl⟩, ?_⟩
      · rw [first.opened.kind_eq, kind]
      · have popped : Enclosed before outer breaks { outline with frames := frames }
            { within with frames := inners ++ [outer.behind outline.nodes] } :=
          ⟨enclosed.nodes, inners, rfl, others⟩
        exact popped.release first.opened

/-- The innermost structure of the body, if one is open, is the innermost inside. -/
theorem head?_block? (enclosed : Enclosed before outer breaks outline within)
    (isOpen : outline.frames ≠ []) : within.frames.head?.bind Frame.block? =
      outline.frames.head?.bind Frame.block? := by
  obtain ⟨inners, framesInside, alike⟩ := enclosed.frames
  obtain ⟨frame, frames, isFrames⟩ := List.exists_cons_of_ne_nil isOpen
  rw [isFrames] at alike ⊢
  rw [framesInside]
  cases alike with
  | cons first others => exact first.block?_eq

theorem leaveBlock {name : String} (enclosed : Enclosed before outer breaks outline within)
    (done : outline.leaveBlock line name = .ok after) :
    ∃ inside, within.leaveBlock (line + breaks) name = .ok inside ∧
      Enclosed before outer breaks after inside := by
  obtain ⟨named, left⟩ := leaveBlock_eq_ok_iff.mp done
  obtain ⟨inside, leftInside, enclosedAfter⟩ := enclosed.leave left
  have isOpen : outline.frames ≠ [] := by
    obtain ⟨frame, frames, isOpen, _⟩ := leave_eq_ok_iff.mp left
    rw [isOpen]
    exact List.cons_ne_nil _ _
  refine ⟨inside, leaveBlock_eq_ok_iff.mpr ⟨?_, leftInside⟩, enclosedAfter⟩
  rw [enclosed.head?_block? isOpen]
  exact named

theorem expectBranch (enclosed : Enclosed before outer breaks outline within)
    (done : outline.expectBranch = .ok after) :
    ∃ inside, within.expectBranch = .ok inside ∧ Enclosed before outer breaks after inside := by
  obtain ⟨rfl, tested, isOpen⟩ := expectBranch_eq_ok_iff.mp done
  obtain ⟨⟨opened, begun, names⟩, isHead, rfl⟩ := Option.map_eq_some_iff.mp isOpen
  obtain ⟨frames, isFrames⟩ := List.head?_eq_some_iff.mp isHead
  obtain ⟨inners, framesInside, alike⟩ := enclosed.frames
  rw [isFrames] at alike
  cases alike with
  | @cons _ inner _ inners first others =>
      obtain ⟨other, started, innerNames⟩ := inner
      obtain ⟨innerTested, rfl⟩ := first.opened.branch
      refine ⟨within, expectBranch_eq_ok_iff.mpr ⟨rfl, innerTested, ?_⟩, enclosed⟩
      rw [framesInside]
      rfl

theorem otherwise (enclosed : Enclosed before outer breaks outline within)
    (done : outline.otherwise = .ok after) :
    ∃ inside, within.otherwise = .ok inside ∧ Enclosed before outer breaks after inside := by
  obtain ⟨inners, framesInside, alike⟩ := enclosed.frames
  rcases otherwise_eq_ok_iff.mp done with ⟨tested, begun, names, frames, isOpen, rfl⟩ | ⟨loop, rfl⟩
  · rw [isOpen] at alike
    cases alike with
    | @cons _ inner _ inners first others =>
        obtain ⟨other, started, innerNames⟩ := inner
        obtain ⟨innerTested, rfl⟩ := first.opened.branch
        have entered := otherwise_eq_ok_iff.mpr
          (Or.inl ⟨innerTested, started, innerNames, _, framesInside, rfl⟩)
        refine ⟨_, entered, enclosed.nodes, ⟨.conditional [] true, started, innerNames⟩ :: inners,
          rfl, ?_⟩
        exact .cons ⟨.same _, first.line, first.bound⟩ others
  · obtain ⟨⟨opened, begun, names⟩, isHead, rfl⟩ := Option.map_eq_some_iff.mp loop
    obtain ⟨frames, isFrames⟩ := List.head?_eq_some_iff.mp isHead
    rw [isFrames] at alike
    cases alike with
    | @cons _ inner _ inners first others =>
        obtain ⟨other, started, innerNames⟩ := inner
        cases first.opened
        refine ⟨within, otherwise_eq_ok_iff.mpr (Or.inr ⟨?_, rfl⟩), enclosed⟩
        rw [framesInside]
        rfl

end Enclosed

/-- What has no block of some nodes in the end has none of them before. -/
theorem apart_of_grows {middle : Outline} (grows : middle.Grows after)
    (apart : (blockNames before).Disjoint (blockNames after.nodes)) :
    (blockNames before).Disjoint (blockNames middle.nodes) :=
  List.disjoint_of_subset_right grows.blocks apart

/-- An effect acts inside a structure as it acts alone, other than by what the structure shows.  A
test needs a structure of the body that it can guard. -/
theorem apply_enclosed {effect : Effect}
    (enclosed : Enclosed before outer breaks outline within) (noBlock : outer.block? = none)
    (sound : outline.Sound) (grows : outline.Grows after)
    (apart : (blockNames before).Disjoint (blockNames after.nodes))
    (noParent : ∀ expression, effect ≠ .extend expression)
    (isOpen : ∀ expression, effect = .test expression → outline.frames ≠ [])
    (done : outline.apply line effect = .ok after) :
    ∃ inside, within.apply (line + breaks) effect = .ok inside ∧
      Enclosed before outer breaks after inside := by
  have apartHere := apart_of_grows grows apart
  cases effect with
  | refuse cause => cases done
  | read expression context => exact enclosed.read noBlock sound apartHere done
  | test expression => exact enclosed.test noBlock sound apartHere (isOpen expression rfl) done
  | expectBranch => exact enclosed.expectBranch done
  | otherwise => exact enclosed.otherwise done
  | extend expression => exact absurd rfl (noParent expression)
  | define block => exact enclosed.define noBlock apart done
  | enter opened names =>
      cases done
      exact ⟨_, rfl, enclosed.enter opened names⟩
  | leaveBlock block => exact enclosed.leaveBlock done
  | leave kind => exact enclosed.leave done
  | bind names =>
      cases done
      exact ⟨_, rfl, enclosed.bind names⟩

/-! ## Segments inside a structure -/

/-- The effects of a tag without a test. -/
theorem applyAll_enclosed {name : String} {effects : List Effect} (belong : MayHave name effects)
    (noTest : ∀ expression, .test expression ∉ effects)
    (noParent : ∀ expression, .extend expression ∉ effects)
    (enclosed : Enclosed before outer breaks outline within) (noBlock : outer.block? = none)
    (sound : outline.Sound) (apart : (blockNames before).Disjoint (blockNames after.nodes))
    (done : outline.applyAll line effects = .ok after) :
    ∃ inside, within.applyAll (line + breaks) effects = .ok inside ∧
      Enclosed before outer breaks after inside := by
  simp only [applyAll_eq_ok_iff] at done ⊢
  rw [← List.map_id effects]
  apply foldlM_simulates (Enclosed before outer breaks) _ apart_of_grows _ _ enclosed sound apart
    done
  · intro effect member _ _ applied
    exact apply_grows (belong effect member) applied
  · intro effect member _ _ _ enclosedHere soundHere apartHere applied
    apply apply_enclosed enclosedHere noBlock soundHere (apply_grows (belong effect member) applied)
      apartHere _ _ applied
    · rintro expression rfl
      exact noParent expression member
    · rintro expression rfl
      exact absurd member (noTest expression)

/-- The effects of a tag with a test, which stands behind the effect that opens its condition. -/
theorem applyAll_test_enclosed {opening : Effect} {expression : Expression}
    (opens : opening = .enter (.conditional [] false) [] ∨ opening = .expectBranch)
    (enclosed : Enclosed before outer breaks outline within) (noBlock : outer.block? = none)
    (sound : outline.Sound) (apart : (blockNames before).Disjoint (blockNames after.nodes))
    (done : outline.applyAll line [opening, .test expression] = .ok after) :
    ∃ inside, within.applyAll (line + breaks) [opening, .test expression] = .ok inside ∧
      Enclosed before outer breaks after inside := by
  simp only [applyAll_eq_ok_iff] at done ⊢
  obtain ⟨middle, opened, done⟩ := foldlM_cons_eq_ok_iff.mp done
  obtain ⟨_, tested, done⟩ := foldlM_cons_eq_ok_iff.mp done
  cases done
  have growsOpened : outline.Grows middle := by
    rcases opens with rfl | rfl
    · exact apply_grows (by decide : Effect.belongsTo "if" _ = true) opened
    · exact apply_grows (by decide : Effect.belongsTo "elif" _ = true) opened
  have growsTested : middle.Grows after :=
    apply_grows (rfl : Effect.belongsTo "if" (.test expression) = true) tested
  have isOpen : middle.frames ≠ [] := by
    rcases opens with rfl | rfl
    · cases opened
      exact List.cons_ne_nil _ _
    · obtain ⟨rfl, tested, isHead⟩ := expectBranch_eq_ok_iff.mp opened
      rintro none
      rw [none] at isHead
      cases isHead
  obtain ⟨between, openedInside, enclosedMiddle⟩ := apply_enclosed enclosed noBlock sound
    growsOpened (apart_of_grows growsTested apart)
    (by rcases opens with rfl | rfl <;> simp) (by rcases opens with rfl | rfl <;> simp) opened
  obtain ⟨inside, testedInside, enclosedAfter⟩ := apply_enclosed enclosedMiddle noBlock
    (sound.grows growsOpened) growsTested apart (by simp) (fun _ _ => isOpen) tested
  refine ⟨inside, ?_, enclosedAfter⟩
  rw [foldlM_cons_eq_ok_iff]
  refine ⟨between, openedInside, ?_⟩
  rw [foldlM_cons_eq_ok_iff]
  exact ⟨inside, testedInside, rfl⟩

theorem segment_enclosed {part : Segment} (noTag : part.isExtendsTag = false)
    (enclosed : Enclosed before outer breaks outline within) (noBlock : outer.block? = none)
    (sound : outline.Sound) (apart : (blockNames before).Disjoint (blockNames after.nodes))
    (done : outline.segment part = .ok after) :
    ∃ inside, within.segment (part.later breaks) = .ok inside ∧
      Enclosed before outer breaks after inside := by
  cases part with
  | text run line =>
      cases done
      have quiet : [Node.text (byteLength run) line].filterMap Node.assign? = [] := rfl
      exact ⟨_, rfl, enclosed.add quiet⟩
  | output body line =>
      have belong := mayHave_ofOutput "" body
      apply applyAll_enclosed belong _ _ enclosed noBlock sound apart done
      · exact fun expression member => Bool.noConfusion (belong _ member)
      · exact fun expression member => Bool.noConfusion (belong _ member)
  | tag body line =>
      by_cases tests : ∃ expression, .test expression ∈ Effect.ofTag body
      · obtain ⟨expression, member⟩ := tests
        obtain ⟨opening, effects, opens⟩ := ofTag_of_test_mem member
        rw [segment, effects] at done
        simp only [Segment.later, segment, effects]
        exact applyAll_test_enclosed opens enclosed noBlock sound apart done
      · have belong := mayHave_ofTag body
        have noParent : ∀ expression, .extend expression ∉ Effect.ofTag body := by
          intro expression member
          have named := belong _ member
          rw [Segment.isExtendsTag] at noTag
          exact absurd named (by simp [Effect.belongsTo, noTag])
        exact applyAll_enclosed belong (not_exists.mp tests) noParent enclosed noBlock sound apart
          done
  | comment body line =>
      cases done
      exact ⟨within, rfl, enclosed⟩

/-- Segments act inside a structure as they act alone, other than by what the structure shows. -/
theorem segments_enclosed {parts : List Segment}
    (noTag : parts.any Segment.isExtendsTag = false)
    (enclosed : Enclosed before outer breaks outline within) (noBlock : outer.block? = none)
    (sound : outline.Sound) (apart : (blockNames before).Disjoint (blockNames after.nodes))
    (done : outline.segments parts = .ok after) :
    ∃ inside, within.segments (parts.map (Segment.later breaks)) = .ok inside ∧
      Enclosed before outer breaks after inside := by
  apply foldlM_simulates (Enclosed before outer breaks) _ apart_of_grows _ _ enclosed sound apart
    done
  · intro part _ _ _ ran
    exact segment_grows ran
  · intro part member _ _ _ enclosedHere soundHere apartHere ran
    have noTagHere : part.isExtendsTag = false := by
      simpa using List.any_eq_false.mp noTag part member
    exact segment_enclosed noTagHere enclosedHere noBlock soundHere apartHere ran

end Outline

end Lineage.Template
