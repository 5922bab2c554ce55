import Lineage.Proofs.Completion

/-!
# The body of a loop

A loop binds its target, and holds the assignments of its body.  So of the nodes of a body, a loop
shows those that stay (`Node.staysInLoop`): no assignment, and no read of a name that is the target
or has been assigned before.
-/

namespace Lineage.Template

open Lineage.Text

/-- Whether a node of a loop over `target` stays behind the nodes `before` of the body.  An
assignment does not, and a read stays if its name is neither the target nor assigned before. -/
def Node.staysInLoop (target : String) (before : List Node) : Node → Bool
  | .assign _ _ => false
  | .read name _ _ => name != target && !(before.filterMap Node.assign?).contains name
  | _ => true

/-- The nodes that stay in a loop over `target`, of those that stand behind the nodes `before` of
the body. -/
def stayInLoop (target : String) (before : List Node) : List Node → List Node
  | [] => []
  | node :: nodes =>
    if node.staysInLoop target before then node :: stayInLoop target (before ++ [node]) nodes
    else stayInLoop target (before ++ [node]) nodes

section Loop

variable {target : String} {line : Nat} {before : List Node}

/-- The loop behind nodes of its body. -/
theorem behind_loop : Frame.behind ⟨.loop, line, [target]⟩ before =
    ⟨.loop, line, target :: before.filterMap Node.assign?⟩ :=
  rfl

theorem shown?_loop (node : Node) :
    (Frame.behind ⟨.loop, line, [target]⟩ before).shown? node =
      if node.staysInLoop target before then some node else none := by
  rw [behind_loop]
  cases node with
  | assign name own => rfl
  | read name guard own =>
      have unguarded : (Node.read name guard own).guarded (Frame.tests ⟨.loop, line,
          target :: before.filterMap Node.assign?⟩) = .read name guard own :=
        congrFun guarded_of_not _
      rw [Frame.shown?, unguarded, Node.staysInLoop, List.contains_cons, bne]
      cases name == target with
      | true => rfl
      | false => cases (before.filterMap Node.assign?).contains name <;> rfl
  | _ => rfl

/-- A loop shows the nodes that stay. -/
theorem shows_loop (nodes : List Node) :
    (Frame.behind ⟨.loop, line, [target]⟩ before).shows nodes = stayInLoop target before nodes := by
  induction nodes generalizing before with
  | nil => rfl
  | cons node nodes ih =>
      rw [Frame.shows, ← Frame.behind_append, ih, shown?_loop, stayInLoop]
      split <;> rfl

end Loop

/-- The tag that opens a loop over a variable reads it, and binds the target in the loop. -/
theorem applyAll_range {range : String} (isRange : IsVariable range) (source : List Char)
    (start line : Nat) (target : String) :
    Outline.empty.applyAll line
        [.read (Expression.single source range start) .plain, .enter .loop [target]] =
      .ok ⟨[.read range .bare line], [⟨.loop, line, [target]⟩], false⟩ := by
  have notFilter : Context.plain ≠ .filter := by decide
  exact Outline.applyAll_pair
    (Outline.read_variable isRange List.not_mem_nil notFilter source start) rfl

/-- A loop over a variable with a body is a template.  It reads the variable, and then come the
nodes of the body that stay, each as it is. -/
theorem Parsed.ofTemplate_loop (joint : String) {target range : String} {text : List Char}
    {nodes : List Node} (isTarget : IsVariable target) (isRange : IsVariable range)
    (body : IsBody text nodes) :
    Parsed.ofTemplate joint (Construct.tag.write ("for".toList ++
        ' ' :: (target.toList ++ ' ' :: ("in".toList ++ ' ' :: range.toList))) ++ text ++
        Construct.tag.write "endfor".toList) =
      .ok ⟨joint, .read range .bare 1 :: stayInLoop target [] nodes⟩ := by
  have isFor : IsWord "for" := by decide
  have plain := IsPlain.range isTarget.isWord isRange.isWord
  obtain ⟨source, start, effects⟩ := ofTag_for_words isTarget isRange
  have shown : Frame.shows ⟨.loop, 1, [target]⟩ nodes = stayInLoop target [] nodes := by
    rw [← shows_loop, Frame.behind_nil]
  have nameless : namesParent (stayInLoop target [] nodes) = false := by
    rw [← shown, Frame.namesParent_shows, body.namesParent_eq_false]
  apply Parsed.ofTemplate_of_completes
  · rw [List.append_assoc]
    apply Outline.Completes.tag (.join (.ofWord isFor) plain isFor.ne_nil (by simp)) (by simp)
    · rw [effects]
      exact applyAll_range isRange source start 1 target
    apply Outline.Completes.body body rfl rfl
    · simp
    · rfl
    intro nested
    refine Outline.Completes.lastTag (.ofWord (by decide)) (by simp) rfl rfl ?_
    simp [shown, Node.later_zero]
  · simpa using nameless

/-- A name is read before it is assigned, and a fallback, a loop and a block stand in the body. -/
theorem Parsed.ofTemplate_loop_assigned_name :
    let text := (Sample.output "w" ++ Sample.tag "set w = v" ++ "\n" ++ Sample.tag "for k in c" ++
      Sample.tag "set q = k" ++ Sample.output "q" ++ Sample.tag "endfor" ++
      Sample.output "q|default(v)" ++ Sample.block "b" (Sample.output "super()" ++
      Sample.output "w")).toList
    let nodes := [.read "w" .bare 1, .read "v" .bare 1, .assign "w" 1, .text 1 1,
      .read "c" .bare 2, .read "q" (.fallback "v") 2, .read "v" .bare 2,
      .block ⟨"b", true, none, 2⟩, .read "w" .bare 2]
    IsVariable "v" ∧ IsVariable "c" ∧ IsBody text nodes ∧
      Parsed.ofTemplate "page" (Construct.tag.write "for v in c".toList ++ text ++
        Construct.tag.write "endfor".toList) = .ok ⟨"page", [.read "c" .bare 1, .read "w" .bare 1,
          .text 1 1, .read "c" .bare 2, .read "q" (.fallback "v") 2,
          .block ⟨"b", true, none, 2⟩]⟩ := by
  intro text nodes
  have isTarget : IsVariable "v" := ⟨by decide, by decide, by decide⟩
  have isRange : IsVariable "c" := ⟨by decide, by decide, by decide⟩
  have body : IsBody text nodes :=
    ⟨⟨"page", by decide +kernel⟩, by decide +kernel, by decide +kernel⟩
  have stay : stayInLoop "v" [] nodes = [.read "w" .bare 1, .text 1 1, .read "c" .bare 2,
      .read "q" (.fallback "v") 2, .block ⟨"b", true, none, 2⟩] := by decide
  have read := Parsed.ofTemplate_loop "page" isTarget isRange body
  rw [stay] at read
  exact ⟨isTarget, isRange, body, read⟩

end Lineage.Template
