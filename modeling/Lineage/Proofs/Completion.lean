import Lineage.Proofs.Enclosing
import Lineage.Proofs.Rendering
import Lineage.Proofs.Words

/-!
# Texts that complete an outline

A text completes an outline if it can be read behind it and leaves no structure open
(`Outline.Completes`).  Such a text is taken apart from its front: a written tag leaves the rest of
the text to the outline after its effects (`Completes.tag`), and a body leaves it to the outline
with the nodes that the open structure shows (`Completes.body`).  Nothing is said about the rest, so
what stands in a structure is told without looking behind it.
-/

namespace Lineage.Template

open Lineage.Text

/-! ## Where a text meets what follows -/

/-- No run of text at the end of the text goes on in what follows. -/
def Seam (text more : List Char) : Prop :=
  ∀ pieces run, Piece.all 1 text = .ok pieces → pieces.getLast? = some (.text run) →
    splitAtOpening (run ++ more) = (run, more)

theorem Segment.later_later (first second : Nat) :
    Segment.later second ∘ Segment.later first = Segment.later (second + first) := by
  funext part
  cases part <;> simp [Segment.later, Nat.add_assoc, Nat.add_comm second first]

/-- A run of text at the end of a text ends with the text. -/
theorem getLast?_of_run {text run : List Char} {pieces : List Piece}
    (covers : pieces.flatMap Piece.source = text) (isLast : pieces.getLast? = some (.text run))
    (filled : run ≠ []) : text.getLast? = run.getLast? := by
  obtain ⟨before, rfl⟩ := List.getLast?_eq_some_iff.mp isLast
  rw [← covers, List.flatMap_append, List.flatMap_singleton]
  exact List.getLast?_append_of_ne_nil _ filled

theorem Spans.shows {before : List Char} {pieces : List Piece} {segments : List Segment}
    (spans : Spans before pieces segments) {piece : Piece} (member : piece ∈ pieces) :
    ∃ front shown, piece.Shows front shown := by
  induction spans with
  | nil => cases member
  | cons first rest ih =>
      rcases List.mem_cons.mp member with rfl | later
      · exact ⟨_, _, first⟩
      · exact ih later

/-- Behind a text that does not end with a brace, a construct begins where it stands. -/
theorem seam_of_noBrace {text more : List Char} (noBrace : text.getLast? ≠ some '{')
    (opens : (opening? more).isSome = true) : Seam text more := by
  intro pieces run found isLast
  have start : lineBehind [] = 1 := rfl
  rw [← start] at found
  obtain ⟨front, shown, shows⟩ := (spans_ofPieces found).shows (List.mem_of_getLast? isLast)
  cases shows with
  | text filled noOpening =>
      rw [getLast?_of_run (pieces_source found) isLast filled] at noBrace
      exact splitAtOpening_append_eq noOpening noBrace (Or.inr opens)

/-! ## Written tags -/

section Written

variable {body : List Char}

theorem isWritable_tag (plain : IsPlain body) (notRaw : body ≠ "raw".toList) :
    ∀ part ∈ [Segment.tag body 0], part.IsWritable := by
  intro part member
  rw [List.mem_singleton.mp member]
  exact ⟨plain.isTrimmed, plain.isTagText, notRaw⟩

theorem all_tag (plain : IsPlain body) (notRaw : body ≠ "raw".toList) :
    Piece.all 1 (Construct.tag.write body) = .ok [.tag (' ' :: body ++ [' '])] := by
  have written := all_written 1 (isWritable_tag plain notRaw) (List.isChain_singleton _)
  rwa [List.flatMap_singleton] at written

theorem cut_tag (plain : IsPlain body) (notRaw : body ≠ "raw".toList) :
    Segment.ofTemplate (Construct.tag.write body) = .ok [.tag body 1] := by
  rw [Segment.ofTemplate, all_tag plain notRaw]
  exact congrArg Except.ok (ofPieces_map_piece [] (isWritable_tag plain notRaw))

/-- A tag ends where its delimiter does. -/
theorem seam_tag (plain : IsPlain body) (notRaw : body ≠ "raw".toList) (more : List Char) :
    Seam (Construct.tag.write body) more := by
  intro pieces run found isLast
  rw [all_tag plain notRaw] at found
  cases found
  cases isLast

theorem IsPlain.lineBreaks_tag_write (plain : IsPlain body) :
    lineBreaks (Construct.tag.write body) = 0 := by
  have inBody : List.count '\n' body = 0 := plain.lineBreaks_eq_zero
  simp [Construct.write, Construct.opening, Construct.closing, lineBreaks, inBody]

end Written

/-! ## Bodies -/

/-- A text that may stand in a structure: it is a template of its own with the nodes, names no
parent, and does not end with what could begin a delimiter. -/
structure IsBody (text : List Char) (nodes : List Node) : Prop where
  accepted : ∃ name, Parsed.ofTemplate name text = .ok ⟨name, nodes⟩
  noParent : hasExtendsTag text = false
  noBrace : text.getLast? ≠ some '{'

theorem IsBody.namesParent_eq_false {text : List Char} {nodes : List Node}
    (isBody : IsBody text nodes) : namesParent nodes = false := by
  obtain ⟨name, accepted⟩ := isBody.accepted
  obtain ⟨_, isTemplate, _⟩ := Parsed.ofTemplate_eq_ok_iff.mp accepted
  obtain ⟨parts, after, cut, done, _, rfl⟩ := Node.ofTemplate_eq_ok_iff.mp isTemplate
  exact Outline.namesParent_of_noTag cut done isBody.noParent

/-! ## Tags over one variable -/

namespace Outline

variable {outline middle after : Outline} {line : Nat}

theorem applyAll_pair {first second : Effect} (one : outline.apply line first = .ok middle)
    (other : middle.apply line second = .ok after) :
    outline.applyAll line [first, second] = .ok after := by
  rw [applyAll_eq_ok_iff, foldlM_cons_eq_ok_iff]
  exact ⟨middle, one, foldlM_cons_eq_ok_iff.mpr ⟨after, other, rfl⟩⟩

/-- A variable that nothing binds is read. -/
theorem read_variable {name : String} (isVariable : IsVariable name) (free : name ∉ outline.bound)
    {context : Context} (noFilter : context ≠ .filter) (source : List Char) (start : Nat) :
    outline.read line (Expression.single source name start) context = .ok (outline.add
      [outline.readNode line ⟨name, if context = .test then .conditional else .bare⟩]) := by
  rw [read_eq_ok_iff]
  refine Or.inl ⟨callsSuper_single source name start, ?_⟩
  rw [reads, occurrences_single isVariable free noFilter]
  rfl

end Outline

/-! ## Completing an outline -/

/-- Read behind the outline, the text leaves the nodes and no open structure.  It stands some line
breaks further down. -/
def Outline.Completes (outline : Outline) (breaks : Nat) (text : List Char) (nodes : List Node) :
    Prop :=
  ∃ parts after, Segment.ofTemplate text = .ok parts ∧
    outline.segments (parts.map (Segment.later breaks)) = .ok after ∧ after.frames = [] ∧
    after.nodes = nodes

namespace Outline.Completes

variable {outline middle : Outline} {outer : Frame} {breaks : Nat} {text more : List Char}
  {nodes inner : List Node}

/-- Nothing is left to be read. -/
theorem nil (closed : outline.frames = []) : outline.Completes breaks [] outline.nodes := by
  refine ⟨[], outline, ?_, rfl, closed, rfl⟩
  rw [Segment.ofTemplate, all_eq_ok_nil_iff.mpr rfl]
  rfl

/-- A text is read first, and then what follows it. -/
theorem append {parts : List Segment} (cut : Segment.ofTemplate text = .ok parts)
    (done : outline.segments (parts.map (Segment.later breaks)) = .ok middle)
    (seam : Seam text more) (rest : middle.Completes (breaks + lineBreaks text) more nodes) :
    outline.Completes breaks (text ++ more) nodes := by
  obtain ⟨further, after, cutMore, doneMore, closed, isNodes⟩ := rest
  obtain ⟨pieces, found, rfl⟩ := Segment.ofTemplate_eq_ok_iff.mp cut
  refine ⟨_, after, Segment.ofTemplate_append found (fun run => seam pieces run found) cutMore,
    ?_, closed, isNodes⟩
  rw [List.map_append, List.map_map, Segment.later_later]
  exact foldlM_append_eq_ok_iff.mpr ⟨_, done, doneMore⟩

/-- A written tag leaves the rest to the outline after its effects. -/
theorem tag {body : List Char} (plain : IsPlain body) (notRaw : body ≠ "raw".toList)
    (done : outline.applyAll (1 + breaks) (Effect.ofTag body) = .ok middle)
    (rest : middle.Completes breaks more nodes) :
    outline.Completes breaks (Construct.tag.write body ++ more) nodes := by
  apply append (cut_tag plain notRaw)
  · exact foldlM_cons_eq_ok_iff.mpr ⟨middle, done, rfl⟩
  · exact seam_tag plain notRaw more
  · rwa [plain.lineBreaks_tag_write]

/-- A written tag at the end has to close what is open. -/
theorem lastTag {body : List Char} (plain : IsPlain body) (notRaw : body ≠ "raw".toList)
    (done : outline.applyAll (1 + breaks) (Effect.ofTag body) = .ok middle)
    (closed : middle.frames = []) (isNodes : middle.nodes = nodes) :
    outline.Completes breaks (Construct.tag.write body) nodes := by
  rw [← List.append_nil (Construct.tag.write body), ← isNodes]
  exact tag plain notRaw done (nil closed)

/-- A body in an open structure leaves the rest to the outline with what the structure shows of its
nodes.  A construct stands behind it. -/
theorem body (isBody : IsBody text inner) (isOpen : outline.frames = [outer])
    (noBlock : outer.block? = none)
    (apart : (blockNames outline.nodes).Disjoint (blockNames inner))
    (opens : (opening? more).isSome = true)
    (rest : ∀ nested, Outline.Completes ⟨outline.nodes ++ (outer.shows inner).map
      (Node.later breaks), [outer.behind inner], nested⟩ (breaks + lineBreaks text) more nodes) :
    outline.Completes breaks (text ++ more) nodes := by
  obtain ⟨name, accepted⟩ := isBody.accepted
  obtain ⟨_, isTemplate, _⟩ := Parsed.ofTemplate_eq_ok_iff.mp accepted
  obtain ⟨parts, after, cut, done, closed, rfl⟩ := Node.ofTemplate_eq_ok_iff.mp isTemplate
  have noTag : parts.any Segment.isExtendsTag = false := by
    have noTag := isBody.noParent
    rwa [hasExtendsTag, cut] at noTag
  obtain ⟨⟨_, _, nested⟩, doneInside, enclosed⟩ := segments_enclosed noTag
    (enclosed_empty rfl isOpen) noBlock sound_empty apart done
  obtain ⟨inners, framesInside, alike⟩ := enclosed.frames
  rw [closed] at alike
  cases alike
  cases enclosed.nodes
  cases framesInside
  exact append cut doneInside (seam_of_noBrace isBody.noBrace opens) (rest nested)

end Outline.Completes

theorem Segment.later_zero : Segment.later 0 = id := by
  funext part
  cases part <;> rfl

/-- Where no parent is named, no parent is dynamic. -/
theorem dynamicParent?_of_not {nodes : List Node} (nameless : namesParent nodes = false) :
    nodes.findSome? Node.dynamicParent? = none := by
  rw [List.findSome?_eq_none_iff]
  intro node member
  have noParent := List.any_eq_false.mp nameless node member
  cases node with
  | «extends» parent line => exact absurd rfl noParent
  | _ => rfl

/-- A text that completes the empty outline is a template, if it names no parent. -/
theorem Parsed.ofTemplate_of_completes {text : List Char} {nodes : List Node}
    (completes : Outline.empty.Completes 0 text nodes) (nameless : namesParent nodes = false)
    (name : String) : Parsed.ofTemplate name text = .ok ⟨name, nodes⟩ := by
  obtain ⟨parts, after, cut, done, closed, isNodes⟩ := completes
  rw [Segment.later_zero, List.map_id] at done
  rw [Parsed.ofTemplate_eq_ok_iff]
  exact ⟨rfl, Node.ofTemplate_eq_ok_iff.mpr ⟨parts, after, cut, done, closed, isNodes⟩,
    dynamicParent?_of_not nameless⟩

end Lineage.Template
