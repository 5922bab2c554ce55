import Lineage.Proofs.Completion

/-!
# The branches of a condition

A condition shows the nodes of its branches as they are, other than by its tests: in each branch a
bare read of the name that its own test reads is conditional.  The test of an `elif` tag takes the
place of the one before it, and no test guards the `else` branch.
-/

namespace Lineage.Template

open Lineage.Text

@[simp]
theorem blockNames_guarded (tested : String → Bool) (nodes : List Node) :
    blockNames (nodes.map (Node.guarded tested)) = blockNames nodes := by
  apply blockNames_map
  intro node
  cases node <;> rfl

@[simp]
theorem namesParent_guarded (tested : String → Bool) (nodes : List Node) :
    namesParent (nodes.map (Node.guarded tested)) = namesParent nodes := by
  apply namesParent_map
  intro node
  cases node <;> rfl

/-! ## What a condition shows -/

section Conditional

variable {tested : List String} {inElse : Bool} {line : Nat}

theorem behind_conditional (nodes : List Node) :
    Frame.behind ⟨.conditional tested inElse, line, []⟩ nodes =
      ⟨.conditional tested inElse, line, []⟩ :=
  rfl

/-- A condition hides no node. -/
theorem shows_conditional (nodes : List Node) :
    Frame.shows ⟨.conditional tested inElse, line, []⟩ nodes =
      nodes.map (Node.guarded fun name => !inElse && tested.contains name) := by
  induction nodes with
  | nil => rfl
  | cons node nodes ih =>
      rw [Frame.shows, behind_conditional, ih, List.map_cons]
      cases node <;> rfl

end Conditional

namespace Outline

variable {outline : Outline} {line begun breaks : Nat} {tested : List String} {inElse : Bool}
  {nodes inner others : List Node} {nested : Bool}

/-! ## Branches -/

/-- The test of a variable is read as conditional, and guards the branch behind it. -/
theorem applyAll_test {name : String} (isVariable : IsVariable name) (source : List Char)
    (start : Nat) {opening : Effect} (opens : outline.apply line opening =
      .ok ⟨nodes, [⟨.conditional tested inElse, begun, []⟩], nested⟩) :
    outline.applyAll line [opening, .test (Expression.single source name start)] =
      .ok ⟨nodes ++ [.read name .conditional line], [⟨.conditional [name] inElse, begun, []⟩],
        nested⟩ := by
  have notFilter : Context.test ≠ .filter := by decide
  have tests := occurrences_single isVariable List.not_mem_nil notFilter source start
  apply applyAll_pair opens
  rw [apply, test_eq_ok_iff]
  refine ⟨_, read_variable isVariable List.not_mem_nil notFilter source start, ?_⟩
  simp [Outline.add, Outline.bound, readNode, retest, tests]

/-- A tag that begins a branch, and the branch. -/
theorem Completes.branch {tag text more : List Char} (plain : IsPlain tag)
    (notRaw : tag ≠ "raw".toList) (isBody : IsBody text inner)
    (done : outline.applyAll (1 + breaks) (Effect.ofTag tag) =
      .ok ⟨nodes, [⟨.conditional tested inElse, begun, []⟩], nested⟩)
    (apart : (blockNames nodes).Disjoint (blockNames inner))
    (opens : (opening? more).isSome = true)
    (rest : ∀ nested, Completes ⟨nodes ++ (inner.map (Node.guarded fun name =>
      !inElse && tested.contains name)).map (Node.later breaks),
        [⟨.conditional tested inElse, begun, []⟩], nested⟩ (breaks + lineBreaks text) more others) :
    outline.Completes breaks (Construct.tag.write tag ++ (text ++ more)) others := by
  apply Completes.tag plain notRaw done
  apply Completes.body isBody rfl rfl apart opens
  rw [shows_conditional]
  exact rest

end Outline

/-- A condition over two variables, with a body in each of its three branches, is a template if the
bodies define no block twice.  It reads the two variables as conditional, each in front of the nodes
of its branch.  A bare read in a branch is conditional exactly if it reads the name that the branch
tests, and the lines count on; nothing else is changed. -/
theorem Parsed.ofTemplate_branches (joint : String) {x y : String} {a b c : List Char}
    {as bs cs : List Node} (first : IsVariable x) (second : IsVariable y) (bodyA : IsBody a as)
    (bodyB : IsBody b bs) (bodyC : IsBody c cs)
    (apartAB : (blockNames as).Disjoint (blockNames bs))
    (apartAC : (blockNames as).Disjoint (blockNames cs))
    (apartBC : (blockNames bs).Disjoint (blockNames cs)) :
    Parsed.ofTemplate joint (Construct.tag.write ("if".toList ++ ' ' :: x.toList) ++ a ++
        Construct.tag.write ("elif".toList ++ ' ' :: y.toList) ++ b ++
        Construct.tag.write "else".toList ++ c ++ Construct.tag.write "endif".toList) =
      .ok ⟨joint, .read x .conditional 1 :: as.map (Node.guarded (· == x)) ++
        (.read y .conditional 1 :: bs.map (Node.guarded (· == y))).map
          (Node.later (lineBreaks a)) ++
        cs.map (Node.later (lineBreaks a + lineBreaks b))⟩ := by
  have parentA := bodyA.namesParent_eq_false
  have parentB := bodyB.namesParent_eq_false
  have parentC := bodyC.namesParent_eq_false
  apply Parsed.ofTemplate_of_completes
  · simp only [List.append_assoc]
    apply Outline.Completes.branch (.pair (by decide) first.isWord) (by simp) bodyA
    · rw [ofTag_if_word first.isWord]
      exact Outline.applyAll_test first _ _ rfl
    · simp [Outline.empty]
    · rfl
    intro nestedA
    apply Outline.Completes.branch (.pair (by decide) second.isWord) (by simp) bodyB
    · rw [ofTag_elif_word second.isWord]
      exact Outline.applyAll_test second _ _ rfl
    · simpa [Outline.empty, -List.map_map] using apartAB
    · rfl
    intro nestedB
    apply Outline.Completes.branch (.ofWord (by decide)) (by simp) bodyC
    · rfl
    · simp [Outline.empty, apartAC, apartBC, -List.map_map]
    · rfl
    intro nestedC
    refine Outline.Completes.lastTag (.ofWord (by decide)) (by simp) rfl rfl ?_
    simp [Outline.empty, Node.later_zero, guarded_of_not, -List.map_map, Node.later,
      beq_eq_decide]
  · simp [parentA, parentB, parentC, Node.later, -List.map_map]

/-- Each branch is guarded by its own test and by no other.  A fallback stays, a nested condition
may test the same name, and an assignment in a branch is one of the template. -/
theorem Parsed.ofTemplate_branches_own_tests :
    let a := (Sample.output "x" ++ Sample.output "y" ++ "\n" ++
      Sample.block "b" (Sample.output "x|default('n')")).toList
    let b := (Sample.output "y" ++ Sample.tag "set x = y" ++ Sample.tag "if x" ++ "\n" ++
      Sample.output "x" ++ Sample.tag "endif" ++ Sample.output "x").toList
    let c := (Sample.output "x" ++ Sample.output "y").toList
    let as := [.read "x" .bare 1, .read "y" .bare 1, .text 1 1, .block ⟨"b", false, none, 2⟩,
      .read "x" (.fallback "n") 2]
    let bs := [.read "y" .bare 1, .read "y" .bare 1, .assign "x" 1, .read "x" .conditional 1,
      .text 1 1, .read "x" .conditional 2, .read "x" .bare 2]
    let cs := [.read "x" .bare 1, .read "y" .bare 1]
    IsVariable "x" ∧ IsVariable "y" ∧ IsBody a as ∧ IsBody b bs ∧ IsBody c cs ∧
      Parsed.ofTemplate "page" (Construct.tag.write "if x".toList ++ a ++
        Construct.tag.write "elif y".toList ++ b ++ Construct.tag.write "else".toList ++ c ++
        Construct.tag.write "endif".toList) = .ok ⟨"page",
        [.read "x" .conditional 1, .read "x" .conditional 1, .read "y" .bare 1, .text 1 1,
          .block ⟨"b", false, none, 2⟩, .read "x" (.fallback "n") 2, .read "y" .conditional 2,
          .read "y" .conditional 2, .read "y" .conditional 2, .assign "x" 2,
          .read "x" .conditional 2, .text 1 2, .read "x" .conditional 3, .read "x" .bare 3,
          .read "x" .bare 3, .read "y" .bare 3]⟩ := by
  intro a b c as bs cs
  have first : IsVariable "x" := ⟨by decide, by decide, by decide⟩
  have second : IsVariable "y" := ⟨by decide, by decide, by decide⟩
  have bodyA : IsBody a as := ⟨⟨"page", by decide +kernel⟩, by decide +kernel, by decide⟩
  have bodyB : IsBody b bs := ⟨⟨"page", by decide +kernel⟩, by decide +kernel, by decide⟩
  have bodyC : IsBody c cs := ⟨⟨"page", by decide +kernel⟩, by decide +kernel, by decide⟩
  have read := Parsed.ofTemplate_branches "page" first second bodyA bodyB bodyC
    (List.disjoint_nil_right _) (List.disjoint_nil_right _) (List.disjoint_nil_right _)
  have breaksA : lineBreaks a = 1 := by decide +kernel
  have breaksB : lineBreaks b = 1 := by decide +kernel
  rw [breaksA, breaksB] at read
  exact ⟨first, second, bodyA, bodyB, bodyC, read⟩

end Lineage.Template
