import Lineage.Proofs.Acceptance
import Lineage.Proofs.ExpressionTexts

/-!
# The parent that a template names

The first `extends` tag leaves a node.  Its parent is a literal if the tag stands outside all
structures and its argument is a single string literal, and dynamic otherwise.  A later tag is
refused, or makes the parent dynamic, and then it stays so.  So after any segments there is no
parent yet, or a literal one that the only tag of this kind names (`NamedOnce`), or a dynamic one
(`ParentsOf`).  A template with a dynamic parent is not accepted.

That a tag stands outside all structures is said by the marks of the tags before it: they are well
nested by themselves, so that whatever began has ended.
-/

namespace Lineage.Template

open Lineage.Text

/-! ## Arguments that are a string literal -/

/-- The text is a single string literal, and the name stands between its quotes. -/
def IsLiteral (text : List Char) (name : String) : Prop :=
  ∃ mark, IsQuote mark ∧ IsQuoted mark name.toList ∧ text = mark :: (name.toList ++ [mark])

theorem quoted_of_read {c mark : Char} {rest inner after : List Char}
    (read : Lexeme.read c rest = .ok (.literal mark inner, after)) :
    IsQuote mark ∧ IsQuoted mark inner := by
  cases read_eq_ok_iff.mp read with
  | literal _ _ isQuote found => exact ⟨isQuote, isQuoted_of_splitLiteral? found⟩

/-- A trimmed text whose only token is a literal is that literal. -/
theorem isLiteral_of_reads {start place : Nat} {text inner : List Char} {mark : Char}
    (reads : Token.Reads start text [⟨.literal mark inner, place⟩]) (trimmed : IsTrimmed text) :
    IsLiteral text (String.ofList inner) := by
  obtain ⟨front, back⟩ := trimmed
  have separates_blank : ∀ {c : Char}, isSeparator c = true → isBlank c ≠ false := by
    intro c separates notBlank
    cases (isBlank_of_isSeparator separates).symm.trans notBlank
  cases reads with
  | separator separates others => exact absurd (front _ rfl) (separates_blank separates)
  | @lexeme _ c rest after _ _ filled read others =>
      have source := read_source read
      have nothing : after = [] := by
        rcases List.eq_nil_or_concat after with none | ⟨more, last, rfl⟩
        · exact none
        · rw [List.concat_eq_append] at source others
          have separates : isSeparator last = true := isSeparator_of_reads_nil others last (by simp)
          refine absurd (back last ?_) (separates_blank separates)
          rw [← source, ← List.append_assoc, List.getLast?_concat]
          rfl
      obtain ⟨isQuote, quoted⟩ := quoted_of_read read
      refine ⟨mark, isQuote, by rwa [String.toList_ofList], ?_⟩
      rw [← source, nothing, List.append_nil, String.toList_ofList]
      rfl

/-! ## The tag that names the parent -/

/-- The segments have exactly one `extends` tag.  It stands outside all structures, and its argument
is a single string literal of the name. -/
def NamedOnce (parts : List Segment) (name : String) : Prop :=
  parts.countP Segment.isExtendsTag = 1 ∧
    ∃ before body line after, parts = before ++ .tag body line :: after ∧
      tagName body = "extends" ∧ Nested none (before.filterMap Segment.mark?) ∧
        IsLiteral (tagArgument body) name

/-- The segments have an `extends` tag inside a structure or with an argument that is no single
string literal, or more than one such tag. -/
def NamedAmbiguously (parts : List Segment) : Prop :=
  (∃ before body line after, parts = before ++ .tag body line :: after ∧
    tagName body = "extends" ∧ (¬ Nested none (before.filterMap Segment.mark?) ∨
      ∀ name, ¬ IsLiteral (tagArgument body) name)) ∨
  2 ≤ parts.countP Segment.isExtendsTag

theorem isExtendsTag_tag {body : List Char} {line : Nat} :
    Segment.isExtendsTag (.tag body line) = true ↔ tagName body = "extends" :=
  beq_iff_eq

/-- Of a list that has one item of a kind, any two decompositions at such an item are the same. -/
theorem eq_of_countP_eq_one {α : Type} {p : α → Bool} {before before' after after' : List α}
    {one other : α} (single : (before ++ one :: after).countP p = 1) (holds : p one = true)
    (holdsOther : p other = true) (same : before ++ one :: after = before' ++ other :: after') :
    before = before' ∧ one = other := by
  rw [List.countP_append, List.countP_cons_of_pos holds] at single
  have absent (rest : List α) (none : rest.countP p = 0) : other ∉ rest := fun member =>
    absurd holdsOther (List.countP_eq_zero.mp none other member)
  rcases List.append_eq_append_iff.mp same with ⟨rest, rfl, split⟩ | ⟨rest, rfl, split⟩
  · cases rest with
    | nil => exact ⟨(List.append_nil _).symm, (List.cons.inj split).1⟩
    | cons first rest =>
        rw [List.cons_append] at split
        obtain ⟨rfl, rfl⟩ := List.cons.inj split
        exact absurd (by simp) (absent (rest ++ other :: after') (by omega))
  · cases rest with
    | nil => exact ⟨List.append_nil _, (List.cons.inj split).1.symm⟩
    | cons first rest =>
        rw [List.cons_append] at split
        obtain ⟨rfl, rfl⟩ := List.cons.inj split
        exact absurd (by simp) (absent (before' ++ other :: rest) (by omega))

theorem NamedOnce.not_namedAmbiguously {parts : List Segment} {name : String}
    (named : NamedOnce parts name) : ¬ NamedAmbiguously parts := by
  obtain ⟨single, before, body, line, after, rfl, isTag, outside, literal⟩ := named
  rintro (⟨before', body', line', after', same, isTag', defect⟩ | more)
  · obtain ⟨rfl, sameTag⟩ := eq_of_countP_eq_one single (isExtendsTag_tag.mpr isTag)
      (isExtendsTag_tag.mpr isTag') same
    cases sameTag
    rcases defect with nested | noLiteral
    · exact nested outside
    · exact noLiteral name literal
  · omega

theorem not_namedAmbiguously_of_none {parts : List Segment}
    (none : parts.countP Segment.isExtendsTag = 0) : ¬ NamedAmbiguously parts := by
  rintro (⟨before, body, line, after, rfl, isTag, _⟩ | more)
  · exact List.countP_eq_zero.mp none (.tag body line) (by simp) (isExtendsTag_tag.mpr isTag)
  · omega

/-- What the nodes of the segments may name as parents. -/
inductive ParentsOf (parts : List Segment) : List Parent → Prop
  | absent (none : parts.countP Segment.isExtendsTag = 0) : ParentsOf parts []
  | literal {name : String} (named : NamedOnce parts name) : ParentsOf parts [.literal name]
  | dynamic (expression : String) : ParentsOf parts [.dynamic expression]

/-- A segment that is no `extends` tag changes nothing. -/
theorem ParentsOf.concat {parts : List Segment} {named : List Parent}
    (parentsOf : ParentsOf parts named) {part : Segment} (noTag : part.isExtendsTag = false) :
    ParentsOf (parts ++ [part]) named := by
  have same : (parts ++ [part]).countP Segment.isExtendsTag =
      parts.countP Segment.isExtendsTag := by
    rw [List.countP_append, List.countP_singleton, noTag]
    rfl
  cases parentsOf with
  | absent none => exact .absent (same.trans none)
  | literal named =>
      obtain ⟨single, before, body, line, after, rfl, isTag, outside, literal⟩ := named
      refine .literal ⟨same.trans single, before, body, line, after ++ [part], ?_⟩
      exact ⟨by simp, isTag, outside, literal⟩
  | dynamic expression => exact .dynamic expression

/-! ## The parents after the segments -/

namespace Outline

variable {outline after : Outline} {line : Nat}

theorem parentOf_eq_literal_iff {frames : List Frame} {expression : Expression} {name : String} :
    parentOf frames expression = .literal name ↔ frames = [] ∧
      ∃ mark inner start, expression.tokens = [⟨.literal mark inner, start⟩] ∧
        name = String.ofList inner := by
  cases frames with
  | cons frame frames => simp [parentOf]
  | nil =>
      simp only [parentOf, true_and]
      split
      · rename_i mark inner start isLiteral
        simp [isLiteral, eq_comm]
      · rename_i noLiteral
        simp only [reduceCtorEq, false_iff]
        rintro ⟨mark, inner, start, isLiteral, _⟩
        exact noLiteral mark inner start isLiteral

/-- The first `extends` tag names a parent.  A later one is refused, or makes the parent dynamic. -/
theorem parents_extend {expression : Expression}
    (done : outline.extend line expression = .ok after) :
    (parents outline.nodes = [] ∧
      parents after.nodes = [parentOf outline.frames expression]) ∨
    (parents outline.nodes ≠ [] ∧ parents after.nodes = (parents outline.nodes).map fun parent =>
      .dynamic (parent.expression ++ " | " ++ String.ofList expression.source)) := by
  rcases extend_eq_ok_iff.mp done with ⟨nameless, rfl⟩ | ⟨named, _, rfl⟩
  · rw [namesParent_eq_false_iff] at nameless
    refine Or.inl ⟨nameless, ?_⟩
    rw [parents_append, nameless]
    rfl
  · refine Or.inr ⟨?_, parents_addParent _ _⟩
    rw [Ne, ← namesParent_eq_false_iff, named]
    exact Bool.noConfusion

theorem segment_extends {body : List Char} (isTag : tagName body = "extends")
    (done : outline.segment (.tag body line) = .ok after) :
    ∃ expression, Expression.ofText (tagArgument body) = .ok expression ∧
      outline.extend line expression = .ok after := by
  rw [segment, applyAll_eq_ok_iff, Effect.ofTag, isTag] at done
  cases accepted : extendsEffects (tagArgument body) with
  | error cause =>
      rw [accepted] at done
      cases done
  | ok effects =>
      rw [accepted] at done
      obtain ⟨expression, isExpression, rfl⟩ := exists_of_extendsEffects accepted
      obtain ⟨_, extended, ⟨⟩⟩ := foldlM_cons_eq_ok_iff.mp done
      exact ⟨expression, isExpression, extended⟩

/-- The first `extends` tag names its parent once, if that is a literal. -/
theorem namedOnce_of_parentOf {parts : List Segment} {body : List Char} {expression : Expression}
    {name : String} (done : empty.segments parts = .ok outline)
    (none : parts.countP Segment.isExtendsTag = 0) (isTag : tagName body = "extends")
    (read : Expression.ofText (tagArgument body) = .ok expression)
    (literal : parentOf outline.frames expression = .literal name) :
    NamedOnce (parts ++ [.tag body line]) name := by
  obtain ⟨closed, mark, inner, start, tokens, rfl⟩ := parentOf_eq_literal_iff.mp literal
  obtain ⟨_, reads, _⟩ := Expression.ofText_eq_ok_iff.mp read
  rw [tokens] at reads
  have runs : Mark.Runs (parts.filterMap Segment.mark?) [] outline.shapes := runs_of_segments done
  rw [shapes, closed, List.map_nil, ← nested_iff_runs] at runs
  refine ⟨?_, parts, body, line, [], rfl, isTag, runs, ?_⟩
  · rw [List.countP_append, none, List.countP_singleton, isExtendsTag_tag.mpr isTag]
    rfl
  · exact isLiteral_of_reads reads (trimsTo_trim _).1

/-- An `extends` tag names the first parent, or an alternative to the one that is there. -/
theorem parentsOf_tag {parts : List Segment} {body : List Char}
    (before : empty.segments parts = .ok outline)
    (parentsOf : ParentsOf parts (parents outline.nodes)) (isTag : tagName body = "extends")
    (ran : outline.segment (.tag body line) = .ok after) :
    ParentsOf (parts ++ [.tag body line]) (parents after.nodes) := by
  obtain ⟨expression, read, extended⟩ := segment_extends isTag ran
  rcases parents_extend extended with ⟨nameless, first⟩ | ⟨named, later⟩
  · rw [first]
    rw [nameless] at parentsOf
    cases parentsOf with
    | absent none =>
        cases parent : parentOf outline.frames expression with
        | literal name => exact .literal (namedOnce_of_parentOf before none isTag read parent)
        | dynamic written => exact .dynamic written
  · rw [later]
    generalize parents outline.nodes = found at parentsOf named
    cases parentsOf with
    | absent none => exact absurd rfl named
    | literal => exact .dynamic _
    | dynamic expression => exact .dynamic _

theorem parentsOf_segments {parts : List Segment} (done : empty.segments parts = .ok outline) :
    ParentsOf parts (parents outline.nodes) := by
  induction parts using List.reverseRecOn generalizing outline with
  | nil =>
      cases done
      exact .absent rfl
  | append_singleton parts part ih =>
      obtain ⟨middle, before, last⟩ := foldlM_append_eq_ok_iff.mp done
      obtain ⟨_, ran, ⟨⟩⟩ := foldlM_cons_eq_ok_iff.mp last
      cases isTag : part.isExtendsTag with
      | false =>
          rw [segment_keepsParents ran isTag]
          exact (ih before).concat isTag
      | true =>
          cases part with
          | tag body line =>
              exact parentsOf_tag before (ih before) (isExtendsTag_tag.mp isTag) ran
          | _ => cases isTag

end Outline

/-! ## The parent of a template that is accepted -/

/-- The name of a parent that is a literal. -/
def Parent.literal? : Parent → Option String
  | .literal name => some name
  | .dynamic _ => none

theorem Parsed.parent_eq (parsed : Parsed) :
    parsed.parent = (parents parsed.nodes).findSome? Parent.literal? := by
  rw [parent, ← List.head?_filterMap, ← List.head?_filterMap, parents, List.filterMap_filterMap]
  congr 2
  funext node
  cases node with
  | «extends» parent line => cases parent <;> rfl
  | _ => rfl

/-- No dynamic parent is left in a template that is accepted. -/
theorem dynamic_notMem_parents {nodes : List Node}
    (noDynamic : nodes.findSome? Node.dynamicParent? = none) (expression : String) :
    .dynamic expression ∉ parents nodes := by
  intro member
  obtain ⟨node, isNode, isParent⟩ := List.mem_filterMap.mp member
  have noParent := List.findSome?_eq_none_iff.mp noDynamic node isNode
  cases node with
  | «extends» parent line =>
      cases isParent
      cases noParent
  | _ => cases isParent

theorem Parsed.parent_of_accepted {name : String} {text : List Char} {parsed : Parsed}
    (accepted : Parsed.ofTemplate name text = .ok parsed) :
    ∃ parts, Segment.ofTemplate text = .ok parts ∧
      ((parts.countP Segment.isExtendsTag = 0 ∧ parsed.parent = none) ∨
        ∃ parent, NamedOnce parts parent ∧ parsed.parent = some parent) := by
  obtain ⟨_, isTemplate, noDynamic⟩ := Parsed.ofTemplate_eq_ok_iff.mp accepted
  obtain ⟨parts, outline, cut, done, _, isNodes⟩ := Node.ofTemplate_eq_ok_iff.mp isTemplate
  refine ⟨parts, cut, ?_⟩
  have parentsOf := Outline.parentsOf_segments done
  rw [isNodes] at parentsOf
  have literal := dynamic_notMem_parents noDynamic
  rw [Parsed.parent_eq]
  generalize parents parsed.nodes = found at parentsOf literal
  cases parentsOf with
  | absent none => exact Or.inl ⟨none, rfl⟩
  | literal named => exact Or.inr ⟨_, named, rfl⟩
  | dynamic expression => exact absurd (List.mem_singleton_self _) (literal expression)

/-- A template that is refused is malformed, or its parent is not known. -/
theorem Parsed.ofTemplate_failure {name : String} {text : List Char} {failure : Failure}
    (refused : Parsed.ofTemplate name text = .error failure) :
    (∃ line message, failure = .parse name line message) ∨
      ∃ expression, failure = .ambiguousExtends name expression := by
  unfold Parsed.ofTemplate at refused
  split at refused
  · cases refused
    exact Or.inl ⟨_, _, rfl⟩
  · split at refused
    · cases refused
      exact Or.inr ⟨_, rfl⟩
    · cases refused

/-- A template that is accepted has no `extends` tag and no parent, or it has exactly one such tag,
outside all structures, whose argument is a single string literal, and the parent is what stands
between the quotes.  A template with such a tag inside a structure or with another argument, or with
more than one such tag, is refused: it is malformed, or its parent is not known. -/
theorem Parsed.ofTemplate_parent (name : String) (text : List Char) :
    (∀ parsed, Parsed.ofTemplate name text = .ok parsed → ∃ parts,
      Segment.ofTemplate text = .ok parts ∧
        ((parts.countP Segment.isExtendsTag = 0 ∧ parsed.parent = none) ∨
          ∃ parent, NamedOnce parts parent ∧ parsed.parent = some parent)) ∧
    ((∀ parts, Segment.ofTemplate text = .ok parts → NamedAmbiguously parts) →
      ∃ failure, Parsed.ofTemplate name text = .error failure ∧
        ((∃ line message, failure = .parse name line message) ∨
          ∃ expression, failure = .ambiguousExtends name expression)) := by
  refine ⟨fun parsed accepted => Parsed.parent_of_accepted accepted, ?_⟩
  intro ambiguous
  cases outcome : Parsed.ofTemplate name text with
  | error failure => exact ⟨failure, rfl, Parsed.ofTemplate_failure outcome⟩
  | ok parsed =>
      obtain ⟨parts, cut, ⟨none, _⟩ | ⟨parent, named, _⟩⟩ := Parsed.parent_of_accepted outcome
      · exact absurd (ambiguous parts cut) (not_namedAmbiguously_of_none none)
      · exact absurd (ambiguous parts cut) named.not_namedAmbiguously

/-- A parent that is named behind a block, and the same with an alternative inside a condition. -/
theorem Parsed.ofTemplate_parent_alternative :
    let single := (Sample.block "head" "" ++ Sample.extendsTag "base").toList
    let twice := single ++
      (Sample.tag "if x" ++ Sample.extendsTag "other" ++ Sample.tag "endif").toList
    (∃ parsed parts, Parsed.ofTemplate "page" single = .ok parsed ∧
      Segment.ofTemplate single = .ok parts ∧ NamedOnce parts "base" ∧
        parsed.parent = some "base") ∧
    ∃ parts failure, Segment.ofTemplate twice = .ok parts ∧ NamedAmbiguously parts ∧
      Parsed.ofTemplate "page" twice = .error failure := by
  intro single twice
  constructor
  · let parsed : Parsed :=
      ⟨"page", [.block ⟨"head", false, none, 1⟩, .extends (.literal "base") 1]⟩
    have accepted : Parsed.ofTemplate "page" single = .ok parsed := by decide +kernel
    have isParent : parsed.parent = some "base" := rfl
    obtain ⟨parts, cut, ⟨_, noParent⟩ | ⟨parent, named, isNamed⟩⟩ :=
      (Parsed.ofTemplate_parent "page" single).1 parsed accepted
    · cases noParent.symm.trans isParent
    · cases isNamed.symm.trans isParent
      exact ⟨parsed, parts, accepted, cut, named, isParent⟩
  · let parts : List Segment := [.tag "block head".toList 1, .tag "endblock".toList 1,
      .tag "extends \"base\"".toList 1, .tag "if x".toList 1, .tag "extends \"other\"".toList 1,
      .tag "endif".toList 1]
    have cut : Segment.ofTemplate twice = .ok parts := by decide +kernel
    have ambiguous : NamedAmbiguously parts := Or.inr (by decide)
    have refused := (Parsed.ofTemplate_parent "page" twice).2
    obtain ⟨failure, isFailure, _⟩ := refused fun others cutOthers =>
      Except.ok.inj (cut.symm.trans cutOthers) ▸ ambiguous
    exact ⟨parts, failure, cut, ambiguous, isFailure⟩

end Lineage.Template
