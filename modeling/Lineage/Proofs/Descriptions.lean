import Lineage.Proofs.Concatenation
import Lineage.Proofs.Renaming

/-!
# Templates up to the descriptions of fallbacks

What a template does never depends on how the fallback of a read is described.  Two outlines that
differ in descriptions only (`Outline.Alike`) stay alike, and are refused together, under effects
that read the same names in the same way (`Effect.Alike`).
-/

namespace Lineage.Template

/-- The node without the description of a fallback. -/
def Node.undescribed : Node → Node
  | .read name guard line => .read name guard.undescribed line
  | node => node

@[simp]
theorem blockNames_undescribed (nodes : List Node) :
    blockNames (nodes.map Node.undescribed) = blockNames nodes := by
  apply blockNames_map
  intro node
  cases node <;> rfl

@[simp]
theorem namesParent_undescribed (nodes : List Node) :
    namesParent (nodes.map Node.undescribed) = namesParent nodes := by
  apply namesParent_map
  intro node
  cases node <;> rfl

theorem Node.dynamicParent?_undescribed :
    Node.dynamicParent? ∘ Node.undescribed = Node.dynamicParent? := by
  funext node
  cases node <;> rfl

theorem Node.undescribed_markSuper (name : String) :
    Node.undescribed ∘ Node.markSuper name = Node.markSuper name ∘ Node.undescribed := by
  funext node
  cases node <;> rfl

theorem Node.undescribed_addParent (expression : String) :
    Node.undescribed ∘ Node.addParent expression = Node.addParent expression ∘ Node.undescribed := by
  funext node
  cases node <;> rfl

/-- Two effects that are the same, except that they may read other expressions with the same reads,
up to the descriptions of fallbacks. -/
inductive Effect.Alike : Effect → Effect → Prop
  | same (effect : Effect) : Effect.Alike effect effect
  | read {expression expression' : Expression} (context : Context)
      (alike : expression.Alike expression') :
      Effect.Alike (.read expression context) (.read expression' context)
  | test {expression expression' : Expression} (alike : expression.Alike expression') :
      Effect.Alike (.test expression) (.test expression')

namespace Outline

/-- Two outlines that differ in the descriptions of fallbacks only. -/
structure Alike (outline outline' : Outline) : Prop where
  nodes : outline.nodes.map Node.undescribed = outline'.nodes.map Node.undescribed
  frames : outline.frames = outline'.frames
  nestedExtends : outline.nestedExtends = outline'.nestedExtends

theorem Alike.refl (outline : Outline) : outline.Alike outline :=
  ⟨rfl, rfl, rfl⟩

namespace Alike

variable {outline outline' after : Outline} {line : Nat} (alike : outline.Alike outline')
include alike

theorem add {nodes nodes' : List Node}
    (same : nodes.map Node.undescribed = nodes'.map Node.undescribed) :
    (outline.add nodes).Alike (outline'.add nodes') where
  nodes := by rw [Outline.add, Outline.add, List.map_append, List.map_append, alike.nodes, same]
  frames := alike.frames
  nestedExtends := alike.nestedExtends

theorem blockNames_eq : blockNames outline.nodes = blockNames outline'.nodes := by
  rw [← blockNames_undescribed, alike.nodes, blockNames_undescribed]

theorem namesParent_eq : namesParent outline.nodes = namesParent outline'.nodes := by
  rw [← namesParent_undescribed, alike.nodes, namesParent_undescribed]

theorem bound_eq : outline.bound = outline'.bound := by
  rw [bound, bound, alike.frames]

theorem innermostBlock?_eq : outline.innermostBlock? = outline'.innermostBlock? := by
  rw [innermostBlock?, innermostBlock?, alike.frames]

theorem reads_eq {expression expression' : Expression} (same : expression.Alike expression')
    (context : Context) :
    (outline.reads line expression context).map Node.undescribed =
      (outline'.reads line expression' context).map Node.undescribed := by
  have kept (outline : Outline) (occurrence : Occurrence) :
      (outline.readNode line occurrence).undescribed =
        outline.readNode line occurrence.undescribed := by
    rcases occurrence with ⟨name, guard⟩
    cases guard with
    | bare =>
        simp only [readNode, Occurrence.undescribed, Guard.undescribed]
        split <;> rfl
    | fallback description => rfl
    | conditional => rfl
  have sameNode : outline.readNode line = outline'.readNode line := by
    funext occurrence
    rw [readNode, readNode, isTested, isTested, alike.frames]
  have through (outline : Outline) (occurrences : List Occurrence) :
      (occurrences.map (outline.readNode line)).map Node.undescribed =
        (occurrences.map Occurrence.undescribed).map (outline.readNode line) := by
    rw [List.map_map, List.map_map]
    exact List.map_congr_left fun occurrence _ => kept outline occurrence
  rw [reads, reads, through, through, sameNode, alike.bound_eq, same.occurrences]

theorem read {expression expression' : Expression} (same : expression.Alike expression')
    {context : Context} (done : outline.read line expression context = .ok after) :
    ∃ after', outline'.read line expression' context = .ok after' ∧ after.Alike after' := by
  rcases read_eq_ok_iff.mp done with ⟨noCall, rfl⟩ | ⟨calls, block, innermost, rfl⟩
  · rw [same.callsSuper] at noCall
    exact ⟨_, read_eq_ok_iff.mpr (Or.inl ⟨noCall, rfl⟩), alike.add (alike.reads_eq same context)⟩
  · rw [same.callsSuper] at calls
    rw [alike.innermostBlock?_eq] at innermost
    refine ⟨_, read_eq_ok_iff.mpr (Or.inr ⟨calls, block, innermost, rfl⟩), ?_, alike.frames,
      alike.nestedExtends⟩
    rw [List.map_append, List.map_append, alike.reads_eq same context, List.map_map, List.map_map,
      Node.undescribed_markSuper, ← List.map_map, ← List.map_map, alike.nodes]

theorem test {expression expression' : Expression} (same : expression.Alike expression')
    (done : outline.test line expression = .ok after) :
    ∃ after', outline'.test line expression' = .ok after' ∧ after.Alike after' := by
  obtain ⟨middle, isRead, rfl⟩ := test_eq_ok_iff.mp done
  rcases alike.read same isRead with ⟨middle', isRead', between⟩
  have names (expression : Expression) (bound : List String) :
      (expression.occurrences .test bound).map (·.name) =
        ((expression.occurrences .test bound).map Occurrence.undescribed).map (·.name) := by
    rw [List.map_map]
    rfl
  refine ⟨_, test_eq_ok_iff.mpr ⟨middle', isRead', rfl⟩, between.nodes, ?_, between.nestedExtends⟩
  rw [names, names, alike.bound_eq, same.occurrences, between.frames]

theorem bind (names : List String) : (outline.bind line names).Alike (outline'.bind line names) := by
  rw [Outline.bind, Outline.bind, ← alike.frames]
  cases bindInnermost? names outline.frames with
  | none => exact alike.add rfl
  | some frames => exact ⟨alike.nodes, rfl, alike.nestedExtends⟩

theorem release (opened : Opened) :
    (outline.release line opened).Alike (outline'.release line opened) := by
  cases opened with
  | capture names => exact alike.bind names
  | _ => exact alike

theorem leave {expected : Structure} (done : outline.leave line expected = .ok after) :
    ∃ after', outline'.leave line expected = .ok after' ∧ after.Alike after' := by
  rcases leave_eq_ok_iff.mp done with ⟨frame, frames, isOpen, kind, rfl⟩
  rw [alike.frames] at isOpen
  refine ⟨_, leave_eq_ok_iff.mpr ⟨frame, frames, isOpen, kind, rfl⟩, ?_⟩
  have closed : Alike { outline with frames := frames } { outline' with frames := frames } :=
    ⟨alike.nodes, rfl, alike.nestedExtends⟩
  exact closed.release frame.opened

theorem extend {expression : Expression} (done : outline.extend line expression = .ok after) :
    ∃ after', outline'.extend line expression = .ok after' ∧ after.Alike after' := by
  have nested : (outline.nestedExtends || !outline.frames.isEmpty) =
      (outline'.nestedExtends || !outline'.frames.isEmpty) := by
    rw [alike.nestedExtends, alike.frames]
  rcases extend_eq_ok_iff.mp done with ⟨nameless, rfl⟩ | ⟨named, isNested, rfl⟩
  · rw [alike.namesParent_eq] at nameless
    refine ⟨_, extend_eq_ok_iff.mpr (Or.inl ⟨nameless, rfl⟩), ?_, alike.frames, nested⟩
    rw [List.map_append, List.map_append, alike.nodes, alike.frames]
  · rw [alike.namesParent_eq] at named
    rw [nested] at isNested
    refine ⟨_, extend_eq_ok_iff.mpr (Or.inr ⟨named, isNested, rfl⟩), ?_, alike.frames, nested⟩
    rw [List.map_map, List.map_map, Node.undescribed_addParent, ← List.map_map, ← List.map_map,
      alike.nodes]

/-- Effects that are alike keep outlines alike. -/
theorem apply {effect effect' : Effect} (same : effect.Alike effect')
    (done : outline.apply line effect = .ok after) :
    ∃ after', outline'.apply line effect' = .ok after' ∧ after.Alike after' := by
  cases same with
  | read context same => exact alike.read same done
  | test same => exact alike.test same done
  | same effect =>
      cases effect with
      | refuse cause => cases done
      | read expression context => exact alike.read ⟨fun _ _ => rfl, rfl⟩ done
      | test expression => exact alike.test ⟨fun _ _ => rfl, rfl⟩ done
      | expectBranch =>
          rcases expectBranch_eq_ok_iff.mp done with ⟨rfl, isOpen⟩
          rw [alike.frames] at isOpen
          exact ⟨_, expectBranch_eq_ok_iff.mpr ⟨rfl, isOpen⟩, alike⟩
      | otherwise =>
          rcases otherwise_eq_ok_iff.mp done with
            ⟨tested, begun, names, frames, isOpen, rfl⟩ | ⟨isOpen, rfl⟩
          · rw [alike.frames] at isOpen
            exact ⟨_, otherwise_eq_ok_iff.mpr (Or.inl ⟨_, _, _, _, isOpen, rfl⟩), alike.nodes, rfl,
              alike.nestedExtends⟩
          · rw [alike.frames] at isOpen
            exact ⟨_, otherwise_eq_ok_iff.mpr (Or.inr ⟨isOpen, rfl⟩), alike⟩
      | extend expression => exact alike.extend done
      | define block =>
          rcases define_eq_ok_iff.mp done with ⟨new, rfl⟩
          rw [alike.blockNames_eq] at new
          refine ⟨_, define_eq_ok_iff.mpr ⟨new, rfl⟩, ?_⟩
          have added : (outline.add [.block ⟨block, false, outline.innermostBlock?, line⟩]).Alike
              (outline'.add [.block ⟨block, false, outline'.innermostBlock?, line⟩]) :=
            alike.add (by rw [alike.innermostBlock?_eq])
          exact ⟨added.nodes, congrArg (_ :: ·) added.frames, added.nestedExtends⟩
      | enter opened names =>
          cases done
          exact ⟨_, rfl, alike.nodes, congrArg (_ :: ·) alike.frames, alike.nestedExtends⟩
      | leaveBlock name =>
          rcases leaveBlock_eq_ok_iff.mp done with ⟨named, left⟩
          rcases alike.leave left with ⟨after', left', behind⟩
          rw [alike.frames] at named
          exact ⟨after', leaveBlock_eq_ok_iff.mpr ⟨named, left'⟩, behind⟩
      | leave kind => exact alike.leave done
      | bind names =>
          cases done
          exact ⟨_, rfl, alike.bind names⟩

theorem applyAll {effects effects' : List Effect} (same : List.Forall₂ Effect.Alike effects effects')
    (done : outline.applyAll line effects = .ok after) :
    ∃ after', outline'.applyAll line effects' = .ok after' ∧ after.Alike after' := by
  rw [applyAll_eq_ok_iff] at done
  simp only [applyAll_eq_ok_iff]
  induction same generalizing outline outline' with
  | nil =>
      cases done
      exact ⟨outline', rfl, alike⟩
  | cons first _ ih =>
      obtain ⟨middle, isFirst, rest⟩ := foldlM_cons_eq_ok_iff.mp done
      rcases alike.apply first isFirst with ⟨middle', isFirst', between⟩
      rcases ih between rest with ⟨after', rest', behind⟩
      exact ⟨after', foldlM_cons_eq_ok_iff.mpr ⟨middle', isFirst', rest'⟩, behind⟩

theorem segment {part : Segment} (done : outline.segment part = .ok after) :
    ∃ after', outline'.segment part = .ok after' ∧ after.Alike after' := by
  have same (effects : List Effect) : List.Forall₂ Effect.Alike effects effects := by
    induction effects with
    | nil => exact .nil
    | cons effect _ ih => exact .cons (.same effect) ih
  cases part with
  | text run line =>
      cases done
      exact ⟨_, rfl, alike.add rfl⟩
  | output body line => exact alike.applyAll (same _) done
  | tag body line => exact alike.applyAll (same _) done
  | comment body line =>
      cases done
      exact ⟨_, rfl, alike⟩

theorem segments {parts : List Segment} (done : outline.segments parts = .ok after) :
    ∃ after', outline'.segments parts = .ok after' ∧ after.Alike after' := by
  induction parts generalizing outline outline' with
  | nil =>
      cases done
      exact ⟨outline', rfl, alike⟩
  | cons part parts ih =>
      obtain ⟨middle, isFirst, rest⟩ := foldlM_cons_eq_ok_iff.mp done
      rcases alike.segment isFirst with ⟨middle', isFirst', between⟩
      rcases ih between rest with ⟨after', rest', behind⟩
      exact ⟨after', foldlM_cons_eq_ok_iff.mpr ⟨middle', isFirst', rest'⟩, behind⟩

end Alike

end Outline

end Lineage.Template
