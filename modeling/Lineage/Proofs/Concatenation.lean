import Lineage.Failure
import Lineage.Samples
import Lineage.Proofs.OutlineSteps
import Lineage.Proofs.Pieces
import Lineage.Proofs.Readings

/-!
# Templates one after another

A template that closes what it opens leaves nothing behind that a later part could see, other than
its nodes.  So an outline may be put behind the outline of a template that has been read
(`Outline.behind`): its nodes come behind those of the template, and its lines count on.  Every
effect acts on the outline behind the template as it acts on the outline alone, as long as the two
define no block with the same name and do not both name a parent (`Outline.Apart`).  The main result
says that the nodes of a text that goes on are the nodes of the two parts.
-/

namespace Lineage.Template

open Lineage.Text

/-! ## Nodes further down -/

/-- The node some line breaks further down. -/
def Node.later (breaks : Nat) : Node → Node
  | .extends parent line => .extends parent (line + breaks)
  | .block site => .block { site with line := site.line + breaks }
  | .read name guard line => .read name guard (line + breaks)
  | .assign name line => .assign name (line + breaks)
  | .text bytes line => .text bytes (line + breaks)

theorem Node.later_zero : Node.later 0 = id := by
  funext node
  cases node <;> rfl

/-- The open structure some line breaks further down. -/
def Frame.later (breaks : Nat) (frame : Frame) : Frame :=
  { frame with line := frame.line + breaks }

@[simp]
theorem blockNames_later (breaks : Nat) (nodes : List Node) :
    blockNames (nodes.map (Node.later breaks)) = blockNames nodes := by
  apply blockNames_map
  intro node
  cases node <;> rfl

@[simp]
theorem namesParent_later (breaks : Nat) (nodes : List Node) :
    namesParent (nodes.map (Node.later breaks)) = namesParent nodes := by
  apply namesParent_map
  intro node
  cases node <;> rfl

theorem Node.dynamicParent?_later (breaks : Nat) :
    Node.dynamicParent? ∘ Node.later breaks = Node.dynamicParent? := by
  funext node
  cases node with
  | «extends» parent line => cases parent <;> rfl
  | _ => rfl

theorem blockNames_eq_map (parsed : Parsed) :
    blockNames parsed.nodes = parsed.blocks.map (·.name) :=
  (List.map_filterMap).symm

theorem markSuper_later (name : String) (breaks : Nat) (nodes : List Node) :
    (nodes.map (Node.later breaks)).map (Node.markSuper name) =
      (nodes.map (Node.markSuper name)).map (Node.later breaks) := by
  rw [List.map_map, List.map_map]
  apply List.map_congr_left
  intro node _
  cases node with
  | block site =>
      simp only [Function.comp_apply, Node.later, Node.markSuper]
      split <;> rfl
  | _ => rfl

theorem addParent_later (expression : String) (breaks : Nat) (nodes : List Node) :
    (nodes.map (Node.later breaks)).map (Node.addParent expression) =
      (nodes.map (Node.addParent expression)).map (Node.later breaks) := by
  rw [List.map_map, List.map_map]
  apply List.map_congr_left
  intro node _
  cases node <;> rfl

/-- A call of `super()` marks no node of a template that does not define the block. -/
theorem map_markSuper_of_notMem {name : String} {nodes : List Node}
    (other : name ∉ blockNames nodes) : nodes.map (Node.markSuper name) = nodes := by
  have unchanged : ∀ node ∈ nodes, node.markSuper name = node := by
    intro node member
    cases node with
    | block site =>
        have different : site.name ≠ name := by
          rintro rfl
          exact other (List.mem_filterMap.mpr ⟨.block site, member, rfl⟩)
        rw [Node.markSuper, if_neg different]
    | _ => rfl
  rw [List.map_congr_left unchanged, List.map_id']

/-- No alternative is added to a parent where none is named. -/
theorem map_addParent_of_not {nodes : List Node} (nameless : namesParent nodes = false)
    (expression : String) : nodes.map (Node.addParent expression) = nodes := by
  have unchanged : ∀ node ∈ nodes, node.addParent expression = node := by
    intro node member
    cases node with
    | «extends» parent line =>
        have named : namesParent nodes = true := List.any_eq_true.mpr ⟨_, member, rfl⟩
        rw [named] at nameless
        cases nameless
    | _ => rfl
  rw [List.map_congr_left unchanged, List.map_id']

theorem bindInnermost?_later (names : List String) (breaks : Nat) (frames : List Frame) :
    bindInnermost? names (frames.map (Frame.later breaks)) =
      (bindInnermost? names frames).map (·.map (Frame.later breaks)) := by
  induction frames with
  | nil => rfl
  | cons frame frames ih =>
      have kind : (frame.later breaks).opened.kind = frame.opened.kind := rfl
      rw [List.map_cons, bindInnermost?, bindInnermost?, kind]
      split
      · rfl
      · rw [ih]
        cases bindInnermost? names frames <;> rfl

theorem retest_later (tested : List String) (breaks : Nat) (frames : List Frame) :
    retest tested (frames.map (Frame.later breaks)) =
      (retest tested frames).map (Frame.later breaks) := by
  cases frames with
  | nil => rfl
  | cons frame frames =>
      obtain ⟨opened, begun, names⟩ := frame
      cases opened <;> rfl

theorem parentOf_later (breaks : Nat) (frames : List Frame) (expression : Expression) :
    Outline.parentOf (frames.map (Frame.later breaks)) expression =
      Outline.parentOf frames expression := by
  cases frames <;> rfl

namespace Outline

variable {before outline after : Outline} {breaks line : Nat}

/-! ## An outline behind a template -/

/-- The outline when a template with the outline `before` stands in front.  Its nodes come behind
those of the template, and its lines are further down. -/
def behind (before : Outline) (breaks : Nat) (outline : Outline) : Outline where
  nodes := before.nodes ++ outline.nodes.map (Node.later breaks)
  frames := outline.frames.map (Frame.later breaks)
  nestedExtends := before.nestedExtends || outline.nestedExtends

/-- No block is defined in both, and not both name a parent. -/
structure Apart (before after : Outline) : Prop where
  blocks : ∀ name ∈ blockNames before.nodes, name ∉ blockNames after.nodes
  parents : namesParent before.nodes = true → namesParent after.nodes = false

theorem Apart.of_grows {middle : Outline} (apart : before.Apart after)
    (grows : middle.Grows after) : before.Apart middle where
  blocks name member defined := apart.blocks name member (grows.blocks defined)
  parents named := by
    cases middleNamed : namesParent middle.nodes with
    | false => rfl
    | true => exact absurd (grows.parent middleNamed) (by simp [apart.parents named])

@[simp]
theorem behind_frames : (before.behind breaks outline).frames =
    outline.frames.map (Frame.later breaks) :=
  rfl

@[simp]
theorem behind_bound : (before.behind breaks outline).bound = outline.bound := by
  rw [bound, behind_frames, List.flatMap_map]
  rfl

@[simp]
theorem behind_innermostBlock? :
    (before.behind breaks outline).innermostBlock? = outline.innermostBlock? := by
  rw [innermostBlock?, behind_frames, List.findSome?_map]
  rfl

@[simp]
theorem behind_isTested (name : String) :
    (before.behind breaks outline).isTested name = outline.isTested name := by
  rw [isTested, behind_frames, List.any_map]
  rfl

theorem behind_opened : (before.behind breaks outline).frames.head?.map Frame.opened =
    outline.frames.head?.map Frame.opened := by
  rw [behind_frames, List.head?_map, Option.map_map]
  rfl

theorem behind_reads (expression : Expression) (context : Context) :
    (before.behind breaks outline).reads (line + breaks) expression context =
      (outline.reads line expression context).map (Node.later breaks) := by
  rw [reads, reads, behind_bound, List.map_map]
  apply List.map_congr_left
  intro occurrence _
  simp only [readNode, behind_isTested, Function.comp_apply, Node.later]

theorem behind_add (nodes : List Node) :
    (before.behind breaks outline).add (nodes.map (Node.later breaks)) =
      before.behind breaks (outline.add nodes) := by
  simp [add, behind]

theorem behind_bind (names : List String) :
    (before.behind breaks outline).bind (line + breaks) names =
      before.behind breaks (outline.bind line names) := by
  unfold bind
  rw [behind_frames, bindInnermost?_later]
  cases bindInnermost? names outline.frames with
  | some frames => rfl
  | none =>
      simp only [Option.map_none]
      rw [← behind_add, List.map_map]
      rfl

theorem behind_release (opened : Opened) :
    (before.behind breaks outline).release (line + breaks) opened =
      before.behind breaks (outline.release line opened) := by
  cases opened with
  | capture names => exact behind_bind names
  | _ => rfl

/-! ## Effects behind a template -/

theorem read_behind {expression : Expression} {context : Context} (sound : outline.Sound)
    (apart : before.Apart after) (done : outline.read line expression context = .ok after) :
    (before.behind breaks outline).read (line + breaks) expression context =
      .ok (before.behind breaks after) := by
  have grows := read_grows done
  rw [read_eq_ok_iff] at done ⊢
  rcases done with ⟨quiet, rfl⟩ | ⟨calls, block, innermost, rfl⟩
  · exact Or.inl ⟨quiet, by rw [behind_reads, behind_add]⟩
  · refine Or.inr ⟨calls, block, by rw [behind_innermostBlock?, innermost], ?_⟩
    have isOpen : block ∈ openBlocks outline.frames := by
      obtain ⟨frame, member, isBlock⟩ := List.exists_of_findSome?_eq_some innermost
      exact List.mem_filterMap.mpr ⟨frame, member, isBlock⟩
    have other : block ∉ blockNames before.nodes := fun defined =>
      apart.blocks block defined (grows.blocks (sound.opened isOpen))
    rw [behind_reads]
    simp only [behind, List.map_append, map_markSuper_of_notMem other, markSuper_later,
      List.append_assoc]

theorem test_behind {expression : Expression} (sound : outline.Sound)
    (apart : before.Apart after) (done : outline.test line expression = .ok after) :
    (before.behind breaks outline).test (line + breaks) expression =
      .ok (before.behind breaks after) := by
  rw [test_eq_ok_iff] at done ⊢
  obtain ⟨middle, isRead, rfl⟩ := done
  have apartMiddle : before.Apart middle := ⟨apart.blocks, apart.parents⟩
  refine ⟨_, read_behind sound apartMiddle isRead, ?_⟩
  rw [behind_bound, behind_frames, retest_later]
  rfl

theorem extend_behind {expression : Expression} (soundBefore : before.Sound)
    (apart : before.Apart after) (done : outline.extend line expression = .ok after) :
    (before.behind breaks outline).extend (line + breaks) expression =
      .ok (before.behind breaks after) := by
  have noParent : namesParent before.nodes = false := by
    cases named : namesParent before.nodes with
    | false => rfl
    | true => exact absurd (extend_grows done).2 (by simp [apart.parents named])
  have noNested : before.nestedExtends = false := by
    cases nested : before.nestedExtends with
    | false => rfl
    | true => exact absurd (soundBefore.nested nested) (by simp [noParent])
  rw [extend_eq_ok_iff] at done ⊢
  have nodes : namesParent (before.behind breaks outline).nodes = namesParent outline.nodes := by
    simp [behind, noParent]
  rw [nodes]
  rcases done with ⟨first, rfl⟩ | ⟨later, inside, rfl⟩
  · refine Or.inl ⟨first, ?_⟩
    simp [behind, noNested, Node.later, parentOf_later]
  · refine Or.inr ⟨later, ?_, ?_⟩
    · simpa [behind, noNested] using inside
    · simp only [behind, noNested, List.map_append, map_addParent_of_not noParent, addParent_later,
        Bool.false_or, List.isEmpty_map]

theorem define_behind {name : String} (apart : before.Apart after)
    (done : outline.define line name = .ok after) :
    (before.behind breaks outline).define (line + breaks) name =
      .ok (before.behind breaks after) := by
  rw [define_eq_ok_iff] at done ⊢
  obtain ⟨new, rfl⟩ := done
  have other : name ∉ blockNames before.nodes := by
    intro defined
    apply apart.blocks name defined
    simp [enter, add, blockNames, Node.block?]
  constructor
  · simp [behind, new, other]
  · rw [behind_innermostBlock?]
    simp [enter, add, behind, Node.later, Frame.later]

theorem leave_behind {expected : Structure} (done : outline.leave line expected = .ok after) :
    (before.behind breaks outline).leave (line + breaks) expected =
      .ok (before.behind breaks after) := by
  rw [leave_eq_ok_iff] at done ⊢
  obtain ⟨frame, frames, isOpen, kind, rfl⟩ := done
  refine ⟨frame.later breaks, frames.map (Frame.later breaks), ?_, kind, ?_⟩
  · rw [behind_frames, isOpen, List.map_cons]
  · exact (behind_release frame.opened).symm

theorem leaveBlock_behind {name : String} (done : outline.leaveBlock line name = .ok after) :
    (before.behind breaks outline).leaveBlock (line + breaks) name =
      .ok (before.behind breaks after) := by
  rw [leaveBlock_eq_ok_iff] at done ⊢
  refine ⟨?_, leave_behind done.2⟩
  have head : (before.behind breaks outline).frames.head?.bind Frame.block? =
      outline.frames.head?.bind Frame.block? := by
    rw [behind_frames, List.head?_map]
    cases outline.frames.head? <;> rfl
  rw [head]
  exact done.1

theorem otherwise_behind (done : outline.otherwise = .ok after) :
    (before.behind breaks outline).otherwise = .ok (before.behind breaks after) := by
  rw [otherwise_eq_ok_iff] at done ⊢
  rcases done with ⟨tested, begun, names, frames, isOpen, rfl⟩ | ⟨loop, rfl⟩
  · refine Or.inl ⟨tested, begun + breaks, names, frames.map (Frame.later breaks), ?_, rfl⟩
    rw [behind_frames, isOpen]
    rfl
  · exact Or.inr ⟨by rw [behind_opened, loop], rfl⟩

theorem expectBranch_behind (done : outline.expectBranch = .ok after) :
    (before.behind breaks outline).expectBranch = .ok (before.behind breaks after) := by
  rw [expectBranch_eq_ok_iff] at done ⊢
  obtain ⟨rfl, tested, isOpen⟩ := done
  exact ⟨rfl, tested, by rw [behind_opened, isOpen]⟩

/-- An effect acts behind a template as it acts alone. -/
theorem apply_behind {effect : Effect} (soundBefore : before.Sound) (sound : outline.Sound)
    (apart : before.Apart after) (done : outline.apply line effect = .ok after) :
    (before.behind breaks outline).apply (line + breaks) effect =
      .ok (before.behind breaks after) := by
  cases effect with
  | refuse cause => cases done
  | read expression context => exact read_behind sound apart done
  | test expression => exact test_behind sound apart done
  | expectBranch => exact expectBranch_behind done
  | otherwise => exact otherwise_behind done
  | extend expression => exact extend_behind soundBefore apart done
  | define block => exact define_behind apart done
  | enter opened names =>
      cases done
      rfl
  | leaveBlock block => exact leaveBlock_behind done
  | leave kind => exact leave_behind done
  | bind names =>
      cases done
      exact congrArg Except.ok (behind_bind names)

/-! ## Templates one after another -/

/-- If every step can be taken behind a template, so can a run. -/
theorem foldlM_behind {α β ε : Type} {step : Outline → α → Except ε Outline}
    {stepMoved : Outline → β → Except ε Outline} {move : α → β} {items : List α}
    (grows : ∀ one ∈ items, ∀ {outline after : Outline},
      step outline one = .ok after → outline.Grows after)
    (each : ∀ one ∈ items, ∀ {outline after : Outline}, outline.Sound → before.Apart after →
      step outline one = .ok after →
      stepMoved (before.behind breaks outline) (move one) = .ok (before.behind breaks after))
    (sound : outline.Sound) (apart : before.Apart after)
    (done : items.foldlM step outline = .ok after) :
    (items.map move).foldlM stepMoved (before.behind breaks outline) =
      .ok (before.behind breaks after) := by
  have eachMoved : ∀ one ∈ items, ∀ {outline within after : Outline},
      within = before.behind breaks outline → outline.Sound → before.Apart after →
      step outline one = .ok after → ∃ inside, stepMoved within (move one) = .ok inside ∧
        inside = before.behind breaks after := by
    rintro one member outline _ after rfl soundHere apartHere ran
    exact ⟨_, each one member soundHere apartHere ran, rfl⟩
  obtain ⟨_, ran, rfl⟩ := foldlM_simulates
    (fun outline within => within = before.behind breaks outline) before.Apart
    (fun growsOn apartAfter => apartAfter.of_grows growsOn) grows eachMoved rfl sound apart done
  exact ran

theorem applyAll_behind {name : String} {effects : List Effect} (belong : MayHave name effects)
    (soundBefore : before.Sound) (sound : outline.Sound) (apart : before.Apart after)
    (done : outline.applyAll line effects = .ok after) :
    (before.behind breaks outline).applyAll (line + breaks) effects =
      .ok (before.behind breaks after) := by
  rw [applyAll_eq_ok_iff] at done ⊢
  rw [← List.map_id effects]
  apply foldlM_behind _ _ sound apart done
  · intro effect member _ _ applied
    exact apply_grows (belong effect member) applied
  · intro effect _ _ _ soundHere apartHere applied
    exact apply_behind soundBefore soundHere apartHere applied

theorem segment_behind {part : Segment} (soundBefore : before.Sound) (sound : outline.Sound)
    (apart : before.Apart after) (done : outline.segment part = .ok after) :
    (before.behind breaks outline).segment (part.later breaks) =
      .ok (before.behind breaks after) := by
  cases part with
  | text run line =>
      cases done
      exact congrArg Except.ok (behind_add [.text (byteLength run) line])
  | output body line =>
      exact applyAll_behind (mayHave_ofOutput "" body) soundBefore sound apart done
  | tag body line => exact applyAll_behind (mayHave_ofTag body) soundBefore sound apart done
  | comment body line =>
      cases done
      rfl

theorem segments_behind (breaks : Nat) {parts : List Segment} (soundBefore : before.Sound)
    (sound : outline.Sound) (apart : before.Apart after)
    (done : outline.segments parts = .ok after) :
    (before.behind breaks outline).segments (parts.map (Segment.later breaks)) =
      .ok (before.behind breaks after) := by
  apply foldlM_behind _ _ sound apart done
  · intro part _ _ _ ran
    exact segment_grows ran
  · intro part _ _ _ soundHere apartHere ran
    exact segment_behind soundBefore soundHere apartHere ran

end Outline

/-- A text is accepted if it can be cut and leaves no structure open. -/
theorem Node.ofTemplate_eq_ok_iff {text : List Char} {nodes : List Node} :
    Node.ofTemplate text = .ok nodes ↔ ∃ parts outline, Segment.ofTemplate text = .ok parts ∧
      Outline.empty.segments parts = .ok outline ∧ outline.frames = [] ∧ outline.nodes = nodes := by
  unfold Node.ofTemplate
  cases cut : Segment.ofTemplate text with
  | error fault => simp [Bind.bind, Except.bind]
  | ok parts =>
      cases done : Outline.empty.segments parts with
      | error fault => simp [Bind.bind, Except.bind, done]
      | ok outline =>
          obtain ⟨found, frames, nested⟩ := outline
          cases frames with
          | nil => simp [Bind.bind, Except.bind, done, Outline.finish]
          | cons frame frames => simp [Bind.bind, Except.bind, done, Outline.finish]

/-- A template whose nodes are accepted is accepted if no parent is dynamic. -/
theorem Parsed.ofTemplate_eq_ok_iff {name : String} {text : List Char} {parsed : Parsed} :
    Parsed.ofTemplate name text = .ok parsed ↔ parsed.name = name ∧
      Node.ofTemplate text = .ok parsed.nodes ∧
      parsed.nodes.findSome? Node.dynamicParent? = none := by
  obtain ⟨own, nodes⟩ := parsed
  unfold Parsed.ofTemplate
  cases found : Node.ofTemplate text with
  | error fault => simp
  | ok others =>
      dsimp only
      split
      · rename_i expression dynamic
        simp only [reduceCtorEq, Except.ok.injEq, false_iff, not_and]
        rintro _ rfl
        simp [dynamic]
      · rename_i literal
        simp only [Except.ok.injEq, Parsed.mk.injEq]
        constructor
        · rintro ⟨rfl, rfl⟩
          exact ⟨rfl, rfl, literal⟩
        · rintro ⟨rfl, rfl, _⟩
          exact ⟨rfl, rfl⟩

/-- Whether the piece is a run of text. -/
def Piece.isText : Piece → Bool
  | .text _ => true
  | _ => false

/-- Whether the text is empty or ends with the end of a construct, and not with a run of text. -/
def endsClosed (text : List Char) : Bool :=
  match Piece.all 1 text with
  | .ok pieces => !pieces.getLast?.any Piece.isText
  | .error _ => false

/-- Whether the text has an `extends` tag. -/
def hasExtendsTag (text : List Char) : Bool :=
  match Segment.ofTemplate text with
  | .ok parts => parts.any Segment.isExtendsTag
  | .error _ => false

/-- No run of text goes on behind a text that ends closed. -/
theorem Segment.ofTemplate_of_endsClosed {text more : List Char} {parts further : List Segment}
    (closed : endsClosed text = true) (cut : Segment.ofTemplate text = .ok parts)
    (cutMore : Segment.ofTemplate more = .ok further) :
    Segment.ofTemplate (text ++ more) =
      .ok (parts ++ further.map (Segment.later (lineBreaks text))) := by
  obtain ⟨pieces, found, rfl⟩ := Segment.ofTemplate_eq_ok_iff.mp cut
  apply Segment.ofTemplate_append found _ cutMore
  intro run isLast
  simp only [endsClosed, found, isLast] at closed
  cases closed

theorem Outline.namesParent_of_noTag {text : List Char} {parts : List Segment} {outline : Outline}
    (cut : Segment.ofTemplate text = .ok parts) (done : Outline.empty.segments parts = .ok outline)
    (noTag : hasExtendsTag text = false) : namesParent outline.nodes = false := by
  rw [hasExtendsTag, cut] at noTag
  exact Outline.namesParent_segments done noTag

/-- The nodes of a text that goes on are the nodes of the text and then those of what follows. -/
theorem Node.ofTemplate_append {text more : List Char} {nodes others : List Node}
    (found : Node.ofTemplate text = .ok nodes) (following : Node.ofTemplate more = .ok others)
    (closed : endsClosed text = true)
    (distinct : ∀ name ∈ blockNames nodes, name ∉ blockNames others)
    (parents : ¬ (hasExtendsTag text = true ∧ hasExtendsTag more = true)) :
    Node.ofTemplate (text ++ more) =
      .ok (nodes ++ others.map (Node.later (lineBreaks text))) := by
  rw [Node.ofTemplate_eq_ok_iff] at found following ⊢
  obtain ⟨parts, outline, cut, done, isClosed, rfl⟩ := found
  obtain ⟨further, after, cutMore, doneMore, isClosedMore, rfl⟩ := following
  have soundOutline : outline.Sound := Outline.sound_empty.grows (Outline.segments_grows done)
  have apart : outline.Apart after := by
    refine ⟨distinct, ?_⟩
    intro named
    cases tag : hasExtendsTag more with
    | false => exact Outline.namesParent_of_noTag cutMore doneMore tag
    | true =>
        have noTag : hasExtendsTag text = false := by simpa [tag] using parents
        rw [Outline.namesParent_of_noTag cut done noTag] at named
        cases named
  have start : outline.behind (lineBreaks text) Outline.empty = outline := by
    obtain ⟨nodes, frames, nested⟩ := outline
    cases isClosed
    simp [Outline.behind, Outline.empty]
  have continued := Outline.segments_behind (lineBreaks text) soundOutline Outline.sound_empty apart
    doneMore
  rw [start] at continued
  refine ⟨_, outline.behind (lineBreaks text) after, Segment.ofTemplate_of_endsClosed closed cut
    cutMore, Outline.foldlM_append_eq_ok_iff.mpr ⟨_, done, continued⟩, ?_, rfl⟩
  rw [Outline.behind_frames, isClosedMore, List.map_nil]

/-- If a template ends closed, and another defines no block of it and does not name a parent as it
does, then their texts one after the other are a template.  Its nodes are the nodes of the first
and then those of the second, whose lines count on from the line breaks of the first: no binding,
test, open block or line of the first has an effect on the second. -/
theorem Parsed.ofTemplate_concatenation {first second joint : String} {text more : List Char}
    {one other : Parsed} (read : Parsed.ofTemplate first text = .ok one)
    (readMore : Parsed.ofTemplate second more = .ok other) (closed : endsClosed text = true)
    (distinct : ∀ block ∈ one.blocks, ∀ later ∈ other.blocks, block.name ≠ later.name)
    (parents : ¬ (hasExtendsTag text = true ∧ hasExtendsTag more = true)) :
    Parsed.ofTemplate joint (text ++ more) =
      .ok ⟨joint, one.nodes ++ other.nodes.map (Node.later (lineBreaks text))⟩ := by
  rw [Parsed.ofTemplate_eq_ok_iff] at read readMore ⊢
  have names : ∀ name ∈ blockNames one.nodes, name ∉ blockNames other.nodes := by
    intro name member memberMore
    rw [blockNames_eq_map one] at member
    rw [blockNames_eq_map other] at memberMore
    obtain ⟨block, inOne, rfl⟩ := List.mem_map.mp member
    obtain ⟨later, inOther, same⟩ := List.mem_map.mp memberMore
    exact distinct block inOne later inOther same.symm
  refine ⟨rfl, Node.ofTemplate_append read.2.1 readMore.2.1 closed names parents, ?_⟩
  rw [List.findSome?_append, read.2.2, Option.none_or, List.findSome?_map,
    Node.dynamicParent?_later, readMore.2.2]

/-- A test guards no read behind the end of its condition, and the lines count on. -/
theorem Parsed.ofTemplate_read_behind_condition :
    let text := (Sample.tag "if y" ++ "\n" ++ Sample.tag "endif").toList
    let more := (Sample.output "y" ++ Sample.block "b" (Sample.output "super()")).toList
    endsClosed text = true ∧ ¬ (hasExtendsTag text = true ∧ hasExtendsTag more = true) ∧
      Parsed.ofTemplate "page" (text ++ more) = .ok ⟨"page",
        [.read "y" .conditional 1, .text 1 1, .read "y" .bare 2,
          .block ⟨"b", true, none, 2⟩]⟩ := by
  intro text more
  have closed : endsClosed text = true := by decide +kernel
  have parents : ¬ (hasExtendsTag text = true ∧ hasExtendsTag more = true) := by decide +kernel
  have read : Parsed.ofTemplate "page" text =
      .ok ⟨"page", [.read "y" .conditional 1, .text 1 1]⟩ := by decide +kernel
  have readMore : Parsed.ofTemplate "page" more =
      .ok ⟨"page", [.read "y" .bare 1, .block ⟨"b", true, none, 1⟩]⟩ := by decide +kernel
  exact ⟨closed, parents,
    Parsed.ofTemplate_concatenation read readMore closed (by decide +kernel) parents⟩

end Lineage.Template
