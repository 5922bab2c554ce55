import Lineage.Proofs.Loops

/-!
# The `else` branch of a loop

The `else` branch of a loop runs if there was nothing to iterate over.  What the tag of the loop
binds is not unbound where the branch begins, so the branch is read as if it went on with the body
of the loop: its reads of the target are dropped like those of the body, and so are those of the
names that the body assigns.
-/

namespace Lineage.Template

open Lineage.Text

/-! ## Reads of one name -/

/-- Whether the node is a read of the name. -/
def Node.isReadOf (name : String) : Node → Bool
  | .read own _ _ => own == name
  | _ => false

/-- The nodes other than the reads of the name. -/
def withoutReads (name : String) (nodes : List Node) : List Node :=
  nodes.filter (!·.isReadOf name)

section Loop

variable {target : String}

theorem withoutReads_eq_self_iff {nodes : List Node} :
    withoutReads target nodes = nodes ↔ ∀ node ∈ nodes, node.isReadOf target = false := by
  simp only [withoutReads, List.filter_eq_self, Bool.not_eq_true']

theorem Node.isReadOf_later (breaks : Nat) (node : Node) :
    (node.later breaks).isReadOf target = node.isReadOf target := by
  cases node <;> rfl

theorem withoutReads_later (breaks : Nat) (nodes : List Node) :
    withoutReads target (nodes.map (Node.later breaks)) =
      (withoutReads target nodes).map (Node.later breaks) := by
  have same : (fun node : Node => !node.isReadOf target) ∘ Node.later breaks =
      fun node => !node.isReadOf target := by
    funext node
    rw [Function.comp_apply, Node.isReadOf_later]
  rw [withoutReads, List.filter_map, same, withoutReads]

/-- Where nothing is assigned, a loop drops the reads of its target and nothing else. -/
theorem stayInLoop_of_quiet {before nodes : List Node}
    (quietBefore : before.filterMap Node.assign? = [])
    (quiet : nodes.filterMap Node.assign? = []) :
    stayInLoop target before nodes = withoutReads target nodes := by
  induction nodes generalizing before with
  | nil => rfl
  | cons node nodes ih =>
      have split : [node].filterMap Node.assign? = [] ∧ nodes.filterMap Node.assign? = [] := by
        rw [← List.singleton_append, List.filterMap_append] at quiet
        exact List.append_eq_nil_iff.mp quiet
      have quietFurther : (before ++ [node]).filterMap Node.assign? = [] := by
        rw [List.filterMap_append, quietBefore, split.1, List.append_nil]
      have stays : node.staysInLoop target before = !node.isReadOf target := by
        cases node with
        | assign name line => cases split.1
        | read name guard line =>
            rw [Node.staysInLoop, quietBefore, Node.isReadOf]
            exact Bool.and_true _
        | _ => rfl
      rw [stayInLoop, ih quietFurther split.2, withoutReads, withoutReads, List.filter_cons, stays]

end Loop

/-- An `else` tag leaves an outline as it is in which only a loop is open. -/
theorem applyAll_loopElse {nodes : List Node} {frame : Frame} {nested : Bool}
    (isLoop : frame.opened = .loop) (line : Nat) :
    Outline.applyAll ⟨nodes, [frame], nested⟩ line [.otherwise] = .ok ⟨nodes, [frame], nested⟩ := by
  rw [Outline.applyAll_eq_ok_iff, Outline.foldlM_cons_eq_ok_iff]
  refine ⟨_, Outline.otherwise_eq_ok_iff.mpr (Or.inr ⟨?_, rfl⟩), rfl⟩
  rw [List.head?_cons, Option.map_some, isLoop]

/-- A loop over a variable with an `else` branch is a template if its two parts define no block
twice.  It reads the variable, and then come the nodes of the two parts that would stay if they were
one body.  So without assignments the reads of the target are dropped in both parts, and those of
the `else` branch are all kept only if it has none of the target. -/
theorem Parsed.ofTemplate_loopAlternative (joint : String) {target range : String}
    {a b : List Char} {as bs : List Node} (isTarget : IsVariable target)
    (isRange : IsVariable range) (bodyA : IsBody a as) (bodyB : IsBody b bs)
    (apart : (blockNames as).Disjoint (blockNames bs)) :
    let later := Node.later (lineBreaks a)
    ∃ nodes, Parsed.ofTemplate joint (Construct.tag.write ("for".toList ++
        ' ' :: (target.toList ++ ' ' :: ("in".toList ++ ' ' :: range.toList))) ++ a ++
        Construct.tag.write "else".toList ++ b ++ Construct.tag.write "endfor".toList) =
          .ok ⟨joint, .read range .bare 1 :: nodes⟩ ∧
      nodes = stayInLoop target [] as ++ (stayInLoop target as bs).map later ∧
      (as.filterMap Node.assign? = [] → bs.filterMap Node.assign? = [] →
        nodes = withoutReads target as ++ (withoutReads target bs).map later ∧
        (nodes = withoutReads target as ++ bs.map later ↔
          ∀ node ∈ bs, node.isReadOf target = false)) := by
  intro later
  have isFor : IsWord "for" := by decide
  have plain := IsPlain.range isTarget.isWord isRange.isWord
  obtain ⟨source, start, effects⟩ := ofTag_for_words isTarget isRange
  have shownA : Frame.shows ⟨.loop, 1, [target]⟩ as = stayInLoop target [] as := by
    rw [← shows_loop, Frame.behind_nil]
  have shownB : (Frame.behind ⟨.loop, 1, [target]⟩ as).shows bs = stayInLoop target as bs :=
    shows_loop bs
  have namelessA : namesParent (stayInLoop target [] as) = false := by
    rw [← shownA, Frame.namesParent_shows, bodyA.namesParent_eq_false]
  have namelessB : namesParent (stayInLoop target as bs) = false := by
    rw [← shownB, Frame.namesParent_shows, bodyB.namesParent_eq_false]
  have apartShown : (blockNames (stayInLoop target [] as)).Disjoint (blockNames bs) := by
    rw [← shownA, Frame.blockNames_shows]
    exact apart
  refine ⟨stayInLoop target [] as ++ (stayInLoop target as bs).map later, ?_, rfl, ?_⟩
  · apply Parsed.ofTemplate_of_completes
    · simp only [List.append_assoc]
      apply Outline.Completes.tag (.join (.ofWord isFor) plain isFor.ne_nil (by simp)) (by simp)
      · rw [effects]
        exact applyAll_range isRange source start 1 target
      apply Outline.Completes.body bodyA rfl rfl
      · simp
      · rfl
      intro nestedA
      apply Outline.Completes.tag (.ofWord (by decide)) (by simp)
      · exact applyAll_loopElse (Frame.opened_behind _ _) _
      apply Outline.Completes.body bodyB rfl (by rw [Frame.block?_behind]; rfl)
      · simpa [shownA, Node.later_zero] using apartShown
      · rfl
      intro nestedB
      refine Outline.Completes.lastTag (.ofWord (by decide)) (by simp) rfl rfl ?_
      simp [shownA, shownB, Node.later_zero, later]
    · simp [namelessA, namelessB, later, -List.map_map]
  · intro quietA quietB
    have nodes : stayInLoop target [] as ++ (stayInLoop target as bs).map later =
        withoutReads target as ++ (withoutReads target bs).map later := by
      rw [stayInLoop_of_quiet rfl quietA, stayInLoop_of_quiet quietA quietB]
    refine ⟨nodes, ?_⟩
    rw [nodes, List.append_cancel_left_eq, ← withoutReads_later, withoutReads_eq_self_iff,
      List.forall_mem_map]
    simp only [Node.isReadOf_later]

/-- The target is read in both parts, in the second one also in a condition on another variable and
in a fallback, and all four reads are dropped. -/
theorem Parsed.ofTemplate_loopAlternative_drops :
    let a := (Sample.output "v" ++ "\n" ++ Sample.tag "for k in v" ++ Sample.output "k" ++
      Sample.tag "endfor" ++ Sample.output "w").toList
    let b := (Sample.tag "if w" ++ Sample.output "v" ++ Sample.tag "endif" ++
      Sample.block "b" (Sample.output "w|default(v)")).toList
    let as := [.read "v" .bare 1, .text 1 1, .read "v" .bare 2, .read "w" .bare 2]
    let bs := [.read "w" .conditional 1, .read "v" .bare 1, .block ⟨"b", false, none, 1⟩,
      .read "w" (.fallback "v") 1, .read "v" .bare 1]
    IsVariable "v" ∧ IsVariable "c" ∧ IsBody a as ∧ IsBody b bs ∧
      (blockNames as).Disjoint (blockNames bs) ∧ as.filterMap Node.assign? = [] ∧
      bs.filterMap Node.assign? = [] ∧
      Parsed.ofTemplate "page" (Construct.tag.write "for v in c".toList ++ a ++
        Construct.tag.write "else".toList ++ b ++ Construct.tag.write "endfor".toList) =
          .ok ⟨"page", [.read "c" .bare 1, .text 1 1, .read "w" .bare 2, .read "w" .conditional 2,
            .block ⟨"b", false, none, 2⟩, .read "w" (.fallback "v") 2]⟩ := by
  intro a b as bs
  have isTarget : IsVariable "v" := ⟨by decide, by decide, by decide⟩
  have isRange : IsVariable "c" := ⟨by decide, by decide, by decide⟩
  have bodyA : IsBody a as := ⟨⟨"page", by decide +kernel⟩, by decide +kernel, by decide +kernel⟩
  have bodyB : IsBody b bs := ⟨⟨"page", by decide +kernel⟩, by decide +kernel, by decide +kernel⟩
  have apart : (blockNames as).Disjoint (blockNames bs) := List.disjoint_nil_left _
  obtain ⟨nodes, read, _, quiet⟩ :=
    Parsed.ofTemplate_loopAlternative "page" isTarget isRange bodyA bodyB apart
  obtain ⟨dropped, _⟩ := quiet rfl rfl
  have breaks : lineBreaks a = 1 := by decide +kernel
  rw [dropped, breaks] at read
  exact ⟨isTarget, isRange, bodyA, bodyB, apart, rfl, rfl, read⟩

/-- A loop without a body whose `else` branch reads the target does not show that read. -/
theorem Parsed.ofTemplate_loopAlternative_hidden :
    let b := (Sample.output "x").toList
    IsVariable "x" ∧ IsVariable "xs" ∧ IsBody [] [] ∧ IsBody b [.read "x" .bare 1] ∧
      Parsed.ofTemplate "t" (Construct.tag.write "for x in xs".toList ++
        Construct.tag.write "else".toList ++ b ++ Construct.tag.write "endfor".toList) =
          .ok ⟨"t", [.read "xs" .bare 1]⟩ ∧
      Parsed.ofTemplate "t" (Construct.tag.write "for x in xs".toList ++
        Construct.tag.write "else".toList ++ b ++ Construct.tag.write "endfor".toList) ≠
          .ok ⟨"t", [.read "xs" .bare 1, .read "x" .bare 1]⟩ := by
  intro b
  have isTarget : IsVariable "x" := ⟨by decide, by decide, by decide⟩
  have isRange : IsVariable "xs" := ⟨by decide, by decide, by decide⟩
  have bodyA : IsBody [] [] := ⟨⟨"t", by decide +kernel⟩, by decide +kernel, by decide +kernel⟩
  have bodyB : IsBody b [.read "x" .bare 1] :=
    ⟨⟨"t", by decide +kernel⟩, by decide +kernel, by decide +kernel⟩
  exact ⟨isTarget, isRange, bodyA, bodyB, by decide +kernel, by decide +kernel⟩

end Lineage.Template
