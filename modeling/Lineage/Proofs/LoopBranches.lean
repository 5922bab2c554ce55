import Lineage.Proofs.Acceptance
import Mathlib.Data.List.Infix

/-!
# The `else` tags of a structure

An `else` tag belongs to the structure that is the innermost open one at the tag.  In the text of a
template this is the structure behind whose tag as many structures end as begin, up to the `else`.
So it can be said without a stack which `else` tags are a structure's own (`Enclosure.OwnElse`), and
the stack shows what follows: behind marks that end what they begin the structure is the innermost
one again (`Mark.Runs.of_balanced`), and it has changed at most by an `else` of its own.

A condition remembers its `else`, so a second one is refused.  A loop does not: it takes any number
of them, and none has an effect.
-/

namespace Lineage.Template

open Lineage.Text

/-! ## Marks that end what they begin -/

namespace Mark

/-- Whether the mark begins a structure. -/
def isBegin : Mark → Bool
  | .begins _ => true
  | _ => false

/-- Whether the mark ends a structure. -/
def isEnd : Mark → Bool
  | .endsBlock _ => true
  | .ends _ => true
  | _ => false

/-- The marks end all structures that they begin, and no others. -/
structure AreBalanced (marks : List Mark) : Prop where
  inside : ∀ start ∈ marks.inits, start.countP isEnd ≤ start.countP isBegin
  whole : marks.countP isEnd = marks.countP isBegin

/-- What stands behind balanced marks in balanced marks is balanced. -/
theorem AreBalanced.of_append {first second : List Mark} (balanced : AreBalanced (first ++ second))
    (ahead : AreBalanced first) : AreBalanced second := by
  have same := ahead.whole
  constructor
  · intro start isStart
    have inside := balanced.inside (first ++ start) <|
      List.mem_inits _ _ |>.mpr <| (List.prefix_append_right_inj first).mpr <|
        (List.mem_inits _ _).mp isStart
    rw [List.countP_append, List.countP_append] at inside
    omega
  · have whole := balanced.whole
    rw [List.countP_append, List.countP_append] at whole
    omega

theorem AreBalanced.of_otherwise {marks : List Mark}
    (balanced : AreBalanced (.otherwise :: marks)) :
    AreBalanced marks := by
  have alone : AreBalanced [.otherwise] := ⟨by decide, rfl⟩
  exact balanced.of_append alone

theorem Becomes.trans {shape middle last : Shape} (first : Becomes (some shape) (some middle))
    (second : Becomes (some middle) (some last)) : Becomes (some shape) (some last) := by
  cases first with
  | same => exact second
  | branched =>
      cases second
      exact .branched

/-- A mark that does not end the structure `shape` leaves it where it is. -/
theorem Turns.exists_above {mark : Mark} {top outer after : List Shape} {shape : Shape}
    (turns : mark.Turns (top ++ shape :: outer) after) (inside : [mark].countP isEnd ≤ top.length) :
    ∃ top' shape', after = top' ++ shape' :: outer ∧
      top'.length + [mark].countP isEnd = top.length + [mark].countP isBegin ∧
      Becomes (some shape) (some shape') := by
  cases top with
  | nil =>
      rw [List.nil_append] at turns
      cases turns with
      | begins begun => exact ⟨[begun], shape, rfl, rfl, .same _⟩
      | elif => exact ⟨[], _, rfl, rfl, .same _⟩
      | otherwise => exact ⟨[], _, rfl, rfl, .branched⟩
      | loopElse => exact ⟨[], _, rfl, rfl, .same _⟩
      | closes closes => cases closes <;> simp [isEnd] at inside
  | cons first top =>
      rw [List.cons_append] at turns
      cases turns with
      | begins begun => exact ⟨begun :: first :: top, shape, rfl, rfl, .same _⟩
      | elif => exact ⟨_ :: top, shape, rfl, rfl, .same _⟩
      | otherwise => exact ⟨_ :: top, shape, rfl, rfl, .same _⟩
      | loopElse => exact ⟨_ :: top, shape, rfl, rfl, .same _⟩
      | closes closes =>
          refine ⟨top, shape, rfl, ?_, .same _⟩
          cases closes <;> rfl

/-- A structure stays open as long as no more structures end than begin. -/
theorem Runs.exists_above {marks : List Mark} {top outer after : List Shape} {shape : Shape}
    (runs : Runs marks (top ++ shape :: outer) after)
    (inside : ∀ start ∈ marks.inits, start.countP isEnd ≤ top.length + start.countP isBegin) :
    ∃ top' shape', after = top' ++ shape' :: outer ∧
      top'.length + marks.countP isEnd = top.length + marks.countP isBegin ∧
      Becomes (some shape) (some shape') := by
  induction marks generalizing top shape with
  | nil => exact ⟨top, shape, runs_nil_iff.mp runs, rfl, .same _⟩
  | cons mark marks ih =>
      obtain ⟨middle, turns, further⟩ := runs_cons_iff.mp runs
      have split (rest : List Mark) (p : Mark → Bool) :
          (mark :: rest).countP p = [mark].countP p + rest.countP p := by
        rw [← List.countP_append, List.singleton_append]
      -- the bound for the first mark alone, which begins no structure if it ends one
      have first : [mark].countP isEnd ≤ top.length := by
        have alone := inside [mark] ((List.mem_inits _ _).mpr ⟨marks, rfl⟩)
        cases mark <;> simp [isBegin, isEnd] at alone ⊢ <;> exact alone
      obtain ⟨above, current, rfl, counted, becomes⟩ := turns.exists_above first
      have insideRest : ∀ start ∈ marks.inits,
          start.countP isEnd ≤ above.length + start.countP isBegin := by
        intro start isStart
        have isLonger : mark :: start ∈ (mark :: marks).inits :=
          (List.mem_inits _ _).mpr <|
            List.cons_prefix_cons.mpr ⟨rfl, (List.mem_inits _ _).mp isStart⟩
        have longer := inside _ isLonger
        rw [split start isEnd, split start isBegin] at longer
        omega
      obtain ⟨last, final, isAfter, countedRest, becomesFinal⟩ := ih further insideRest
      refine ⟨last, final, isAfter, ?_, becomes.trans becomesFinal⟩
      rw [split marks isEnd, split marks isBegin]
      omega

/-- Behind balanced marks the structure that was the innermost one is so again. -/
theorem Runs.of_balanced {marks : List Mark} {outer after : List Shape} {shape : Shape}
    (runs : Runs marks (shape :: outer) after) (balanced : AreBalanced marks) :
    ∃ current, after = current :: outer ∧ Becomes (some shape) (some current) := by
  have inside : ∀ start ∈ marks.inits,
      start.countP isEnd ≤ ([] : List Shape).length + start.countP isBegin := by
    intro start isStart
    rw [List.length_nil, Nat.zero_add]
    exact balanced.inside start isStart
  have above : Runs marks ([] ++ shape :: outer) after := runs
  obtain ⟨top, current, rfl, counted, becomes⟩ := above.exists_above inside
  have whole := balanced.whole
  have none : top = [] := by
    apply List.eq_nil_of_length_eq_zero
    rw [List.length_nil] at counted
    omega
  exact ⟨current, by rw [none, List.nil_append], becomes⟩

/-- A condition that has come to its `else` takes no second one. -/
theorem Runs.not_otherwise_twice {first second rest : List Mark} {outer after : List Shape}
    {inElse : Bool} (ahead : AreBalanced first) (between : AreBalanced second) :
    ¬ Runs (first ++ .otherwise :: (second ++ .otherwise :: rest))
      (.conditional inElse :: outer) after := by
  intro runs
  obtain ⟨_, toFirst, runs⟩ := runs_append_iff.mp runs
  obtain ⟨current, rfl, becomes⟩ := toFirst.of_balanced ahead
  obtain ⟨_, turns, runs⟩ := runs_cons_iff.mp runs
  obtain ⟨_, toSecond, runs⟩ := runs_append_iff.mp runs
  obtain ⟨_, again, _⟩ := runs_cons_iff.mp runs
  rcases turns_otherwise_iff.mp turns with ⟨_, _, rfl⟩ | ⟨_, isLoop⟩
  · obtain ⟨last, rfl, unchanged⟩ := toSecond.of_balanced between
    cases unchanged
    rcases turns_otherwise_iff.mp again with ⟨_, same, _⟩ | ⟨_, isLoop⟩
    · cases same
    · cases isLoop
  · cases isLoop
    cases becomes

end Mark

/-- The mark of an `else` tag. -/
theorem Mark.name_of_otherwise {name : String} {argument : List Char}
    (marked : ofTag? name argument = some .otherwise) : name = "else" := by
  unfold ofTag? at marked
  split at marked
  all_goals
    first
    | rfl
    | cases marked
    | simp at marked

/-! ## Structures in a template -/

/-- The segments of a template around a structure. -/
structure Enclosure where
  before : List Segment
  /-- The tag that begins the structure. -/
  opening : Segment
  inside : List Segment
  /-- The tag that ends the structure. -/
  closing : Segment
  after : List Segment

namespace Enclosure

/-- All segments of the template. -/
def parts (enclosure : Enclosure) : List Segment :=
  enclosure.before ++
    enclosure.opening :: (enclosure.inside ++ enclosure.closing :: enclosure.after)

/-- The two tags begin and end one structure, which has the shape at its beginning. -/
structure Encloses (enclosure : Enclosure) (shape : Shape) : Prop where
  begins : enclosure.opening.mark? = some (.begins shape)
  balanced : Mark.AreBalanced (enclosure.inside.filterMap Segment.mark?)
  ends : ∃ close ∈ enclosure.closing.mark?, close.isEnd = true

/-- Behind the segments `ahead` of the inside stands an `else` tag that belongs to the structure,
and to none within. -/
def OwnElse (enclosure : Enclosure) (ahead : List Segment) : Prop :=
  ∃ tag later, enclosure.inside = ahead ++ tag :: later ∧ tag.mark? = some .otherwise ∧
    Mark.AreBalanced (ahead.filterMap Segment.mark?)

variable {enclosure : Enclosure} {shape : Shape} {outline : Outline}

/-- Between two balanced places of its inside the structure is the innermost open one. -/
theorem Encloses.exists_place (encloses : enclosure.Encloses shape)
    (done : Outline.empty.segments enclosure.parts = .ok outline) {ahead later : List Segment}
    (split : enclosure.inside = ahead ++ later)
    (balanced : Mark.AreBalanced (ahead.filterMap Segment.mark?)) :
    ∃ place current outer,
      Outline.empty.segments (enclosure.before ++ enclosure.opening :: ahead) = .ok place ∧
        place.segments (later ++ enclosure.closing :: enclosure.after) = .ok outline ∧
        place.shapes = current :: outer ∧ Mark.Becomes (some shape) (some current) := by
  have whole : enclosure.parts = (enclosure.before ++ enclosure.opening :: ahead) ++
      (later ++ enclosure.closing :: enclosure.after) := by
    simp [parts, split]
  rw [whole] at done
  obtain ⟨place, toPlace, fromPlace⟩ := Outline.foldlM_append_eq_ok_iff.mp done
  obtain ⟨outside, toOpening, further⟩ := Outline.foldlM_append_eq_ok_iff.mp toPlace
  have turned : Mark.Runs (Mark.begins shape :: ahead.filterMap Segment.mark?) outside.shapes
      place.shapes := by
    rw [← List.filterMap_cons_some encloses.begins]
    exact Outline.runs_of_segments further
  obtain ⟨_, turns, runs⟩ := Mark.runs_cons_iff.mp turned
  rw [Mark.turns_begins_iff.mp turns] at runs
  obtain ⟨current, isPlace, becomes⟩ := runs.of_balanced balanced
  exact ⟨place, current, outside.shapes, toPlace, fromPlace, isPlace, becomes⟩

/-- Of two `else` tags of a condition the first is not in front of the second. -/
theorem OwnElse.eq_of_prefix (encloses : enclosure.Encloses (.conditional false))
    (done : Outline.empty.segments enclosure.parts = .ok outline) {first second : List Segment}
    (one : enclosure.OwnElse first) (other : enclosure.OwnElse second)
    (inFront : first <+: second) :
    first = second := by
  obtain ⟨tag, later, isInside, isElse, balanced⟩ := one
  obtain ⟨tag', later', isInside', isElse', balanced'⟩ := other
  obtain ⟨middle, rfl⟩ := inFront
  cases middle with
  | nil => rw [List.append_nil]
  | cons part middle =>
      exfalso
      have same := isInside.symm.trans isInside'
      rw [List.append_assoc, List.append_cancel_left_eq, List.cons_append, List.cons.injEq] at same
      obtain ⟨rfl, rfl⟩ := same
      have between : Mark.AreBalanced (middle.filterMap Segment.mark?) := by
        rw [List.filterMap_append, List.filterMap_cons_some isElse] at balanced'
        exact (balanced'.of_append balanced).of_otherwise
      obtain ⟨place, current, outer, _, fromPlace, isPlace, becomes⟩ :=
        encloses.exists_place done (List.nil_append enclosure.inside).symm ⟨by simp, rfl⟩
      have runs := Outline.runs_of_segments fromPlace
      rw [isPlace, isInside'] at runs
      simp only [List.filterMap_append, List.filterMap_cons_some isElse,
        List.filterMap_cons_some isElse', List.cons_append, List.append_assoc] at runs
      obtain ⟨inElse, rfl⟩ : ∃ inElse, current = .conditional inElse := by
        cases becomes with
        | same => exact ⟨false, rfl⟩
        | branched => exact ⟨true, rfl⟩
      exact Mark.Runs.not_otherwise_twice balanced between runs

/-- An `else` tag belongs to a condition or a loop. -/
theorem OwnElse.shape_eq (encloses : enclosure.Encloses shape)
    (done : Outline.empty.segments enclosure.parts = .ok outline) {ahead : List Segment}
    (own : enclosure.OwnElse ahead) : shape = .conditional false ∨ shape = .plain .loop := by
  obtain ⟨tag, later, isInside, isElse, balanced⟩ := own
  obtain ⟨place, current, outer, _, fromPlace, isPlace, becomes⟩ :=
    encloses.exists_place done isInside balanced
  have runs := Outline.runs_of_segments fromPlace
  rw [isPlace, List.cons_append, List.filterMap_cons_some isElse] at runs
  obtain ⟨_, turns, _⟩ := Mark.runs_cons_iff.mp runs
  cases becomes with
  | branched => exact Or.inl rfl
  | same =>
      rcases Mark.turns_otherwise_iff.mp turns with ⟨_, same, _⟩ | ⟨_, isLoop⟩
      · cases same
        exact Or.inl rfl
      · cases isLoop
        exact Or.inr rfl

end Enclosure

/-- An `else` tag leaves an outline whose innermost structure is a loop as it is. -/
theorem Outline.segment_otherwise {outline : Outline} {tag : Segment} {outer : List Shape}
    (isElse : tag.mark? = some .otherwise) (inLoop : outline.shapes = .plain .loop :: outer) :
    outline.segment tag = .ok outline := by
  cases tag with
  | tag body line =>
      have named : tagName body = "else" := Mark.name_of_otherwise isElse
      have effects : Effect.ofTag body = [.otherwise] := by
        simp only [Effect.ofTag, named]
      obtain ⟨frame, frames, isFrames, isShape, _⟩ := List.map_eq_cons_iff.mp inLoop
      have isLoop : outline.frames.head?.map Frame.opened = some .loop := by
        rw [isFrames, List.head?_cons, Option.map_some, Opened.shape_eq_loop_iff.mp isShape]
      have stays : outline.otherwise = .ok outline := otherwise_eq_ok_iff.mpr (Or.inr ⟨isLoop, rfl⟩)
      rw [segment, effects, applyAll_eq_ok_iff]
      exact foldlM_cons_eq_ok_iff.mpr ⟨outline, stays, rfl⟩
  | _ => cases isElse

/-- The second inside of a structure is the first with one more `else` tag of its own. -/
def AddsElse (inside more : List Segment) : Prop :=
  ∃ ahead tag later, inside = ahead ++ later ∧ more = ahead ++ tag :: later ∧
    tag.mark? = some .otherwise ∧ Mark.AreBalanced (ahead.filterMap Segment.mark?)

/-- One more `else` tag of a loop, or one less, leaves the outline of the template. -/
theorem Enclosure.Encloses.segments_addsElse {enclosure : Enclosure} {outline : Outline}
    (encloses : enclosure.Encloses (.plain .loop)) {inside : List Segment}
    (changes : AddsElse enclosure.inside inside ∨ AddsElse inside enclosure.inside)
    (done : Outline.empty.segments enclosure.parts = .ok outline) :
    Outline.empty.segments ({ enclosure with inside := inside } : Enclosure).parts =
      .ok outline := by
  have isLoop {current : Shape} (becomes : Mark.Becomes (some (.plain .loop)) (some current)) :
      current = .plain .loop := by
    cases becomes
    rfl
  rcases changes with ⟨ahead, tag, later, isInside, rfl, isElse, balanced⟩ |
    ⟨ahead, tag, later, rfl, isInside, isElse, balanced⟩
  · obtain ⟨place, current, outer, toPlace, fromPlace, isPlace, becomes⟩ :=
      encloses.exists_place done isInside balanced
    rw [isLoop becomes] at isPlace
    have whole : ({ enclosure with inside := ahead ++ tag :: later } : Enclosure).parts =
        (enclosure.before ++ enclosure.opening :: ahead) ++
          tag :: (later ++ enclosure.closing :: enclosure.after) := by
      simp [parts]
    rw [whole]
    apply Outline.foldlM_append_eq_ok_iff.mpr
    refine ⟨place, toPlace, Outline.foldlM_cons_eq_ok_iff.mpr ?_⟩
    exact ⟨place, Outline.segment_otherwise isElse isPlace, fromPlace⟩
  · obtain ⟨place, current, outer, toPlace, fromPlace, isPlace, becomes⟩ :=
      encloses.exists_place done isInside balanced
    rw [isLoop becomes] at isPlace
    have whole : ({ enclosure with inside := ahead ++ later } : Enclosure).parts =
        (enclosure.before ++ enclosure.opening :: ahead) ++
          (later ++ enclosure.closing :: enclosure.after) := by
      simp [parts]
    obtain ⟨same, stays, behind⟩ := Outline.foldlM_cons_eq_ok_iff.mp fromPlace
    rw [Outline.segment_otherwise isElse isPlace] at stays
    cases stays
    rw [whole]
    exact Outline.foldlM_append_eq_ok_iff.mpr ⟨place, toPlace, behind⟩

/-- In a template that is accepted a condition has at most one `else` tag of its own.  A loop may
have any number: with one more, or one less, the template is accepted too, with the same record.  No
other structure has an `else` tag. -/
theorem Parsed.ofTemplate_ownElse {name : String} {text : List Char} {parsed : Parsed}
    {enclosure : Enclosure} {shape : Shape} (encloses : enclosure.Encloses shape)
    (cut : Segment.ofTemplate text = .ok enclosure.parts)
    (accepted : Parsed.ofTemplate name text = .ok parsed) :
    (shape = .conditional false →
      ∀ first second, enclosure.OwnElse first → enclosure.OwnElse second → first = second) ∧
    (shape = .plain .loop → ∀ inside other,
      AddsElse enclosure.inside inside ∨ AddsElse inside enclosure.inside →
        Segment.ofTemplate other = .ok ({ enclosure with inside := inside } : Enclosure).parts →
          Parsed.ofTemplate name other = .ok parsed) ∧
    (shape ≠ .conditional false → shape ≠ .plain .loop → ∀ ahead, ¬ enclosure.OwnElse ahead) := by
  obtain ⟨isName, isTemplate, noDynamic⟩ := Parsed.ofTemplate_eq_ok_iff.mp accepted
  obtain ⟨parts, outline, isCut, done, closed, isNodes⟩ := Node.ofTemplate_eq_ok_iff.mp isTemplate
  cases isCut.symm.trans cut
  refine ⟨?_, ?_, ?_⟩
  · rintro rfl first second one other
    have isFirst : first <+: enclosure.inside := by
      obtain ⟨_, _, isInside, _⟩ := one
      exact ⟨_, isInside.symm⟩
    have isSecond : second <+: enclosure.inside := by
      obtain ⟨_, _, isInside, _⟩ := other
      exact ⟨_, isInside.symm⟩
    rcases List.prefix_or_prefix_of_prefix isFirst isSecond with inFront | behind
    · exact one.eq_of_prefix encloses done other inFront
    · exact (other.eq_of_prefix encloses done one behind).symm
  · rintro rfl inside other changes cutOther
    have doneOther := encloses.segments_addsElse changes done
    exact Parsed.ofTemplate_eq_ok_iff.mpr ⟨isName, Node.ofTemplate_eq_ok_iff.mpr
      ⟨_, outline, cutOther, doneOther, closed, isNodes⟩, noDynamic⟩
  · intro noCondition noLoop ahead own
    rcases own.shape_eq encloses done with isCondition | isLoop
    · exact noCondition isCondition
    · exact noLoop isLoop

/-- A loop with an `else` inside a condition with another one.  The loop may have a second one, and
the condition has its own only. -/
theorem Parsed.ofTemplate_ownElse_nested :
    let text (branches : String) := (Sample.tag "if x" ++ Sample.tag "for i in xs" ++ branches ++
      Sample.tag "endfor" ++ Sample.tag "else" ++ Sample.output "z" ++ Sample.tag "endif").toList
    let one := Sample.tag "else" ++ Sample.output "y"
    let loop : Enclosure := ⟨[.tag "if x".toList 1], .tag "for i in xs".toList 1,
      [.tag "else".toList 1, .output "y".toList 1], .tag "endfor".toList 1,
      [.tag "else".toList 1, .output "z".toList 1, .tag "endif".toList 1]⟩
    let condition : Enclosure := ⟨[], .tag "if x".toList 1,
      [.tag "for i in xs".toList 1, .tag "else".toList 1, .output "y".toList 1,
        .tag "endfor".toList 1, .tag "else".toList 1, .output "z".toList 1], .tag "endif".toList 1,
      []⟩
    let parsed : Parsed := ⟨"page", [.read "x" .conditional 1, .read "xs" .bare 1,
      .read "y" .bare 1, .read "z" .bare 1]⟩
    Parsed.ofTemplate "page" (text one) = .ok parsed ∧ loop.Encloses (.plain .loop) ∧
      Parsed.ofTemplate "page" (text (one ++ Sample.tag "else")) = .ok parsed ∧
      condition.Encloses (.conditional false) ∧ condition.OwnElse (condition.inside.take 4) ∧
      ∀ ahead, condition.OwnElse ahead → ahead = condition.inside.take 4 := by
  intro text one loop condition parsed
  have accepted : Parsed.ofTemplate "page" (text one) = .ok parsed := by decide +kernel
  have cutLoop : Segment.ofTemplate (text one) = .ok loop.parts := by decide +kernel
  have cutCondition : Segment.ofTemplate (text one) = .ok condition.parts := by decide +kernel
  have inLoop : loop.Encloses (.plain .loop) :=
    ⟨by decide +kernel, ⟨by decide +kernel, by decide +kernel⟩, .ends .loop, by decide +kernel, rfl⟩
  have inCondition : condition.Encloses (.conditional false) :=
    ⟨by decide +kernel, ⟨by decide +kernel, by decide +kernel⟩, .ends .conditional,
      by decide +kernel, rfl⟩
  have own : condition.OwnElse (condition.inside.take 4) :=
    ⟨.tag "else".toList 1, [.output "z".toList 1], rfl, by decide +kernel,
      by decide +kernel, by decide +kernel⟩
  have adds : AddsElse loop.inside (loop.inside ++ [.tag "else".toList 1]) :=
    ⟨loop.inside, .tag "else".toList 1, [], by simp, rfl, by decide +kernel, by decide +kernel,
      by decide +kernel⟩
  have ofLoop := (Parsed.ofTemplate_ownElse inLoop cutLoop accepted).2.1 rfl _
    (text (one ++ Sample.tag "else")) (Or.inl adds) (by decide +kernel)
  have ofCondition := (Parsed.ofTemplate_ownElse inCondition cutCondition accepted).1 rfl
  exact ⟨accepted, inLoop, ofLoop, inCondition, own,
    fun ahead other => ofCondition ahead _ other own⟩

/-- A loop with two `else` tags of its own is accepted. -/
theorem Parsed.ofTemplate_loop_two_elses :
    let text := (Sample.tag "for x in xs" ++ Sample.tag "else" ++ Sample.tag "else" ++
      Sample.tag "endfor").toList
    let loop : Enclosure := ⟨[], .tag "for x in xs".toList 1,
      [.tag "else".toList 1, .tag "else".toList 1], .tag "endfor".toList 1, []⟩
    Segment.ofTemplate text = .ok loop.parts ∧ loop.Encloses (.plain .loop) ∧
      loop.OwnElse [] ∧ loop.OwnElse [.tag "else".toList 1] ∧
      Parsed.ofTemplate "t" text = .ok ⟨"t", [.read "xs" .bare 1]⟩ := by
  intro text loop
  have inLoop : loop.Encloses (.plain .loop) :=
    ⟨by decide +kernel, ⟨by decide +kernel, by decide +kernel⟩, .ends .loop, by decide +kernel, rfl⟩
  have isElse : (Segment.tag "else".toList 1).mark? = some .otherwise := by decide +kernel
  have first : loop.OwnElse [] := ⟨_, _, rfl, isElse, by decide, rfl⟩
  have second : loop.OwnElse [.tag "else".toList 1] :=
    ⟨_, _, rfl, isElse, by decide +kernel, by decide +kernel⟩
  exact ⟨by decide +kernel, inLoop, first, second, by decide +kernel⟩

end Lineage.Template
