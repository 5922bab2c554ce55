import Lineage.Regex.Pattern
import Mathlib.Data.List.Basic

/-!
# What a pattern matches

A pattern covers stretches of a text (`Pattern.Covers`), and it matches the text if it covers some
stretch of it (`Pattern.Matches`).  Neither says how a match is looked for.  The main results say
that the search on sets of positions finds a match exactly if there is one, and then the first
position at which one begins.

A step of the search sends a set of positions to those that a relation leads to from there
(`Sends`), and the steps of a pattern are put together as the relations of its parts are.
-/

namespace Lineage.Regex

/-- The relation leads from one position to the other in exactly `count` steps. -/
def Repeats (relation : Nat → Nat → Prop) : Nat → Nat → Nat → Prop
  | 0, start, stop => start = stop
  | count + 1, start, stop => ∃ middle, relation start middle ∧ Repeats relation count middle stop

/-- The pattern covers the stretch of the text from `start` to `stop`. -/
def Pattern.Covers (text : List Char) : Pattern → Nat → Nat → Prop
  | .empty, start, stop => start = stop
  | .chars set, start, stop => stop = start + 1 ∧ ∃ c, text[start]? = some c ∧ set.contains c = true
  | .anchor condition, start, stop =>
    start = stop ∧ condition.holds (text.take start).getLast? text[start]? = true
  | .sequence first second, start, stop =>
    ∃ middle, first.Covers text start middle ∧ second.Covers text middle stop
  | .alternative left right, start, stop =>
    left.Covers text start stop ∨ right.Covers text start stop
  | .repetition inner least most, start, stop =>
    ∃ count, least ≤ count ∧ (∀ limit ∈ most, count ≤ max least limit) ∧
      Repeats (inner.Covers text) count start stop
  | .group inner, start, stop => inner.Covers text start stop

/-- The pattern covers some stretch of the text. -/
def Pattern.Matches (pattern : Pattern) (text : List Char) : Prop :=
  ∃ start stop, start ≤ text.length ∧ pattern.Covers text start stop

/-! ## Repeated steps -/

section Repeats

variable {relation : Nat → Nat → Prop}

theorem repeats_add {first second start stop : Nat} :
    Repeats relation (first + second) start stop ↔
      ∃ middle, Repeats relation first start middle ∧ Repeats relation second middle stop := by
  induction first generalizing start with
  | zero => simp [Repeats]
  | succ first ih =>
      rw [Nat.succ_add]
      simp only [Repeats, ih]
      constructor
      · rintro ⟨next, step, middle, before, after⟩
        exact ⟨middle, ⟨next, step, before⟩, after⟩
      · rintro ⟨middle, ⟨next, step, before⟩, after⟩
        exact ⟨next, step, middle, before, after⟩

theorem Repeats.le (forward : ∀ start stop, relation start stop → start ≤ stop)
    {count start stop : Nat} (repeats : Repeats relation count start stop) : start ≤ stop := by
  induction count generalizing start with
  | zero => exact Nat.le_of_eq repeats
  | succ count ih =>
      obtain ⟨middle, step, rest⟩ := repeats
      exact Nat.le_trans (forward start middle step) (ih rest)

/-- Steps that stay where they are can be left out. -/
theorem Repeats.shorten (forward : ∀ start stop, relation start stop → start ≤ stop)
    {count start stop : Nat} (repeats : Repeats relation count start stop) :
    ∃ fewer, fewer ≤ stop - start ∧ Repeats relation fewer start stop := by
  induction count generalizing start with
  | zero => exact ⟨0, Nat.zero_le _, repeats⟩
  | succ count ih =>
      obtain ⟨middle, step, rest⟩ := repeats
      obtain ⟨fewer, bound, shorter⟩ := ih rest
      rcases Nat.eq_or_lt_of_le (forward start middle step) with rfl | lt
      · exact ⟨fewer, bound, shorter⟩
      · have le := rest.le forward
        exact ⟨fewer + 1, by omega, middle, step, shorter⟩

end Repeats

/-- A match does not go back. -/
theorem Pattern.Covers.le {text : List Char} {pattern : Pattern} {start stop : Nat}
    (covers : pattern.Covers text start stop) : start ≤ stop := by
  induction pattern generalizing start stop with
  | empty => exact Nat.le_of_eq covers
  | chars set => exact covers.1 ▸ Nat.le_succ start
  | anchor condition => exact Nat.le_of_eq covers.1
  | sequence first second ihFirst ihSecond =>
      obtain ⟨middle, before, after⟩ := covers
      exact Nat.le_trans (ihFirst before) (ihSecond after)
  | alternative left right ihLeft ihRight => exact covers.elim ihLeft ihRight
  | repetition inner least most ih =>
      obtain ⟨count, _, _, repeats⟩ := covers
      exact repeats.le fun _ _ => ih
  | group inner ih => exact ih covers

/-! ## Steps on sets of positions -/

/-- The position is in the set. -/
def Marked (marks : List Bool) (position : Nat) : Prop :=
  marks[position]? = some true

/-- The step sends every set of positions to those that the relation leads to from there. -/
structure Sends (size : Nat) (step : List Bool → List Bool) (relation : Nat → Nat → Prop) :
    Prop where
  length : ∀ marks : List Bool, marks.length = size → (step marks).length = size
  marked : ∀ marks : List Bool, marks.length = size → ∀ stop,
    Marked (step marks) stop ↔ ∃ start, Marked marks start ∧ relation start stop

theorem Marked.lt {marks : List Bool} {position : Nat} (marked : Marked marks position) :
    position < marks.length :=
  (List.getElem?_eq_some_iff.mp marked).1

theorem marked_zipWith_and {left right : List Bool} {position : Nat} :
    Marked (List.zipWith (· && ·) left right) position ↔
      Marked left position ∧ Marked right position := by
  simp only [Marked, List.getElem?_zipWith_eq_some]
  constructor
  · rintro ⟨one, other, here, there, both⟩
    obtain ⟨rfl, rfl⟩ := Bool.and_eq_true_iff.mp both
    exact ⟨here, there⟩
  · rintro ⟨here, there⟩
    exact ⟨true, true, here, there, rfl⟩

theorem marked_union {left right : List Bool} (same : left.length = right.length) {position : Nat} :
    Marked (marksUnion left right) position ↔ Marked left position ∨ Marked right position := by
  simp only [Marked, marksUnion, List.getElem?_zipWith_eq_some]
  constructor
  · rintro ⟨one, other, here, there, either⟩
    rcases Bool.or_eq_true_iff.mp either with rfl | rfl
    · exact .inl here
    · exact .inr there
  · rintro (here | there)
    · have inside : position < right.length := same ▸ Marked.lt here
      exact ⟨true, right[position], here, List.getElem?_eq_getElem inside, Bool.true_or _⟩
    · have inside : position < left.length := same ▸ Marked.lt there
      exact ⟨left[position], true, List.getElem?_eq_getElem inside, there, Bool.or_true _⟩

theorem length_union {left right : List Bool} (same : left.length = right.length) :
    (marksUnion left right).length = left.length := by
  rw [marksUnion, List.length_zipWith, same, Nat.min_self]

theorem marked_replicate {size position : Nat} :
    Marked (List.replicate size true) position ↔ position < size := by
  rw [Marked, List.getElem?_replicate]
  simp

namespace Sends

variable {size : Nat} {step other : List Bool → List Bool} {relation next : Nat → Nat → Prop}

theorem congr (sends : Sends size step relation)
    (same : ∀ start stop, start < size → (relation start stop ↔ next start stop)) :
    Sends size step next where
  length := sends.length
  marked marks length stop := by
    rw [sends.marked marks length]
    constructor
    · rintro ⟨start, marked, leads⟩
      exact ⟨start, marked, (same start stop (length ▸ marked.lt)).mp leads⟩
    · rintro ⟨start, marked, leads⟩
      exact ⟨start, marked, (same start stop (length ▸ marked.lt)).mpr leads⟩

theorem lt_size (sends : Sends size step relation) {start stop : Nat} (inside : start < size)
    (leads : relation start stop) : stop < size := by
  have full : (List.replicate size true).length = size := List.length_replicate
  have marked := (sends.marked _ full stop).mpr ⟨start, marked_replicate.mpr inside, leads⟩
  exact sends.length _ full ▸ marked.lt

theorem stay : Sends size (fun marks => marks) (fun start stop => start = stop) where
  length _ length := length
  marked marks _ stop := by simp

theorem comp (sends : Sends size step relation) (after : Sends size other next) :
    Sends size (fun marks => other (step marks))
      (fun start stop => ∃ middle, relation start middle ∧ next middle stop) where
  length marks length := after.length _ (sends.length marks length)
  marked marks length stop := by
    simp only [after.marked _ (sends.length marks length), sends.marked marks length]
    constructor
    · rintro ⟨middle, ⟨start, marked, first⟩, second⟩
      exact ⟨start, marked, middle, first, second⟩
    · rintro ⟨start, marked, middle, first, second⟩
      exact ⟨middle, ⟨start, marked, first⟩, second⟩

theorem union (sends : Sends size step relation) (also : Sends size other next) :
    Sends size (fun marks => marksUnion (step marks) (other marks))
      (fun start stop => relation start stop ∨ next start stop) where
  length marks length := by
    have same := (sends.length marks length).trans (also.length marks length).symm
    rw [length_union same, sends.length marks length]
  marked marks length stop := by
    have same := (sends.length marks length).trans (also.length marks length).symm
    rw [marked_union same, sends.marked marks length, also.marked marks length]
    simp only [and_or_left, exists_or]

theorem iterate (sends : Sends size step relation) (count : Nat) :
    Sends size (iterate step count) (Repeats relation count) := by
  induction count with
  | zero => exact stay
  | succ count ih => exact sends.comp ih

/-- From a set to which a step adds nothing, nothing else can be reached. -/
theorem marked_of_closed (sends : Sends size step relation) {marks : List Bool}
    (length : marks.length = size) (closed : marksUnion marks (step marks) = marks)
    {count start stop : Nat} (marked : Marked marks start)
    (repeats : Repeats relation count start stop) : Marked marks stop := by
  induction count generalizing start with
  | zero => exact repeats ▸ marked
  | succ count ih =>
      obtain ⟨middle, leads, rest⟩ := repeats
      refine ih ?_ rest
      rw [← closed]
      exact ((stay.union sends).marked marks length middle).mpr ⟨start, marked, .inr leads⟩

/-- A search gives up as soon as a step adds nothing. -/
theorem accumulate (sends : Sends size step relation) (count : Nat) :
    Sends size (accumulate step count)
      (fun start stop => ∃ fewer ≤ count, Repeats relation fewer start stop) := by
  induction count with
  | zero =>
      refine stay.congr fun start stop _ => ?_
      simp [Repeats]
  | succ count ih =>
      have once := stay.union sends
      constructor
      · intro marks length
        rw [Regex.accumulate]
        split
        · exact length
        · exact ih.length _ (once.length marks length)
      · intro marks length stop
        rw [Regex.accumulate]
        split
        · rename_i closed
          constructor
          · exact fun marked => ⟨stop, marked, 0, Nat.zero_le _, rfl⟩
          · rintro ⟨start, marked, fewer, _, repeats⟩
            exact sends.marked_of_closed length closed marked repeats
        · rw [ih.marked _ (once.length marks length)]
          simp only [once.marked marks length]
          constructor
          · rintro ⟨middle, ⟨start, marked, rfl | leads⟩, fewer, bound, repeats⟩
            · exact ⟨start, marked, fewer, Nat.le_succ_of_le bound, repeats⟩
            · exact ⟨start, marked, fewer + 1, Nat.succ_le_succ bound, middle, leads, repeats⟩
          · rintro ⟨start, marked, fewer, bound, repeats⟩
            cases fewer with
            | zero => exact ⟨start, ⟨start, marked, .inl rfl⟩, 0, Nat.zero_le _, repeats⟩
            | succ fewer =>
                obtain ⟨middle, leads, rest⟩ := repeats
                exact ⟨middle, ⟨start, marked, .inr leads⟩, fewer,
                  Nat.le_of_succ_le_succ bound, rest⟩

/-- From a number of steps on, there are enough of them with as many more as there are positions. -/
theorem repetition (sends : Sends size step relation)
    (forward : ∀ start stop, relation start stop → start ≤ stop) (least : Nat)
    (most : Option Nat) :
    Sends size
      (fun marks => Regex.accumulate step (match most with
        | some limit => limit - least
        | none => size) (Regex.iterate step least marks))
      (fun start stop => ∃ count, least ≤ count ∧ (∀ limit ∈ most, count ≤ max least limit) ∧
        Repeats relation count start stop) := by
  refine ((sends.iterate least).comp (sends.accumulate _)).congr fun start stop inside => ?_
  constructor
  · rintro ⟨middle, first, further, bound, rest⟩
    refine ⟨least + further, Nat.le_add_right _ _, ?_, repeats_add.mpr ⟨middle, first, rest⟩⟩
    intro limit member
    obtain rfl := Option.mem_def.mp member
    simp only at bound
    omega
  · rintro ⟨count, enough, bound, repeats⟩
    obtain ⟨further, rfl⟩ := Nat.exists_eq_add_of_le enough
    obtain ⟨middle, first, rest⟩ := repeats_add.mp repeats
    refine ⟨middle, first, ?_⟩
    -- without a limit, steps that stay where they are are left out to come below `size`
    cases most with
    | some limit =>
        have few := bound limit rfl
        exact ⟨further, by simp only; omega, rest⟩
    | none =>
        obtain ⟨fewer, short, shorter⟩ := rest.shorten forward
        have within := (sends.iterate _).lt_size inside repeats
        exact ⟨fewer, by simp only; omega, shorter⟩

end Sends

/-! ## The steps of a pattern -/

theorem sends_chars (text : List Char) (set : CharClass) :
    Sends (text.length + 1) (Pattern.ends text (.chars set))
      (Pattern.Covers text (.chars set)) where
  length marks length := by
    rw [Pattern.ends, List.length_cons, List.length_zipWith]
    omega
  marked marks length stop := by
    rw [Pattern.ends]
    cases stop with
    | zero => simp [Marked, Pattern.Covers]
    | succ stop =>
        simp only [Marked, List.getElem?_cons_succ, List.getElem?_zipWith_eq_some, Pattern.Covers]
        constructor
        · rintro ⟨mark, c, marked, here, both⟩
          obtain ⟨rfl, contains⟩ := Bool.and_eq_true_iff.mp both
          exact ⟨stop, marked, rfl, c, here, contains⟩
        · rintro ⟨start, marked, same, c, here, contains⟩
          obtain rfl := Nat.succ.inj same
          exact ⟨true, c, marked, here, contains⟩

theorem length_anchorMarks (condition : Anchor) (before : Option Char) (text : List Char) :
    (anchorMarks condition before text).length = text.length + 1 := by
  induction text generalizing before with
  | nil => rfl
  | cons c rest ih => rw [anchorMarks, List.length_cons, ih, List.length_cons]

theorem getElem?_anchorMarks (condition : Anchor) (before : Option Char) (text : List Char)
    {position : Nat} (inside : position ≤ text.length) :
    (anchorMarks condition before text)[position]? =
      some (condition.holds ((text.take position).getLast?.or before) text[position]?) := by
  induction text generalizing before position with
  | nil =>
      obtain rfl := Nat.le_zero.mp inside
      rfl
  | cons c rest ih =>
      cases position with
      | zero => rfl
      | succ position =>
          rw [anchorMarks, List.getElem?_cons_succ, ih _ (Nat.le_of_succ_le_succ inside),
            List.getElem?_cons_succ, List.take_succ_cons, List.getLast?_cons]
          cases (rest.take position).getLast? <;> rfl

theorem sends_anchor (text : List Char) (condition : Anchor) :
    Sends (text.length + 1) (Pattern.ends text (.anchor condition))
      (Pattern.Covers text (.anchor condition)) where
  length marks length := by
    rw [Pattern.ends, List.length_zipWith, length_anchorMarks, length, Nat.min_self]
  marked marks length stop := by
    have here : stop < marks.length → (Marked (anchorMarks condition none text) stop ↔
        condition.holds (text.take stop).getLast? text[stop]? = true) := by
      intro inside
      rw [Marked, getElem?_anchorMarks condition none text (by omega), Option.or_none,
        Option.some.injEq]
    rw [Pattern.ends, marked_zipWith_and]
    constructor
    · rintro ⟨marked, holds⟩
      exact ⟨stop, marked, rfl, (here marked.lt).mp holds⟩
    · rintro ⟨start, marked, rfl, holds⟩
      exact ⟨marked, (here marked.lt).mpr holds⟩

/-- The search goes where the pattern leads. -/
theorem Pattern.sends_ends (text : List Char) (pattern : Pattern) :
    Sends (text.length + 1) (pattern.ends text) (pattern.Covers text) := by
  induction pattern with
  | empty => exact Sends.stay
  | chars set => exact sends_chars text set
  | anchor condition => exact sends_anchor text condition
  | sequence first second ihFirst ihSecond => exact ihFirst.comp ihSecond
  | alternative left right ihLeft ihRight => exact ihLeft.union ihRight
  | repetition inner least most ih => exact ih.repetition (fun _ _ => Covers.le) least most
  | group inner ih => exact ih

/-! ## The search for a match -/

theorem exists_marked_iff {marks : List Bool} :
    marks.any id = true ↔ ∃ stop, Marked marks stop := by
  simp [Marked, List.mem_iff_getElem?]

namespace Pattern

variable {pattern : Pattern} {text : List Char}

theorem isMatch_iff : pattern.isMatch text = true ↔ pattern.Matches text := by
  rw [isMatch, exists_marked_iff]
  simp only [(sends_ends text pattern).marked _ List.length_replicate, marked_replicate,
    Nat.lt_succ_iff, Matches]
  constructor
  · rintro ⟨stop, start, inside, covers⟩
    exact ⟨start, stop, inside, covers⟩
  · rintro ⟨start, stop, inside, covers⟩
    exact ⟨stop, start, inside, covers⟩

theorem startsAt_iff {start : Nat} (inside : start ≤ text.length) :
    pattern.startsAt text start = true ↔ ∃ stop, pattern.Covers text start stop := by
  have only : ∀ position, Marked (List.replicate start false ++
      true :: List.replicate (text.length - start) false) position ↔ position = start := by
    intro position
    rw [Marked, List.getElem?_append]
    split
    · rename_i before
      rw [List.length_replicate] at before
      rw [List.getElem?_replicate]
      simp [before, Nat.ne_of_lt before]
    · rename_i after
      rw [List.length_replicate] at after ⊢
      rw [List.getElem?_cons, List.getElem?_replicate]
      grind
  have full : (List.replicate start false ++
      true :: List.replicate (text.length - start) false).length = text.length + 1 := by
    simp only [List.length_append, List.length_cons, List.length_replicate]
    omega
  rw [startsAt, exists_marked_iff]
  simp only [(sends_ends text pattern).marked _ full, only, exists_eq_left]

/-- The search finds the first position at which a match begins. -/
theorem firstMatch?_eq_some_iff {start : Nat} :
    pattern.firstMatch? text = some start ↔ start ≤ text.length ∧
      (∃ stop, pattern.Covers text start stop) ∧
      ∀ earlier < start, ∀ stop, ¬ pattern.Covers text earlier stop := by
  have found : (List.range (text.length + 1)).find? (pattern.startsAt text) = some start ↔
      start ≤ text.length ∧ (∃ stop, pattern.Covers text start stop) ∧
        ∀ earlier < start, ∀ stop, ¬ pattern.Covers text earlier stop := by
    rw [List.find?_range_eq_some, List.mem_range, Nat.lt_succ_iff, and_left_comm]
    refine and_congr_right fun inside => ?_
    rw [startsAt_iff inside]
    refine and_congr_right fun _ => forall₂_congr fun earlier before => ?_
    have within := Nat.le_trans (Nat.le_of_lt before) inside
    rw [Bool.not_eq_true', ← Bool.not_eq_true, startsAt_iff within, not_exists]
  rw [firstMatch?]
  split
  · exact found
  · rename_i noMatch
    rw [isMatch_iff] at noMatch
    simp only [false_iff, reduceCtorEq]
    rintro ⟨inside, ⟨stop, covers⟩, _⟩
    exact noMatch ⟨start, stop, inside, covers⟩

/-- The search finds a match exactly if there is one. -/
theorem isSome_firstMatch?_iff : (pattern.firstMatch? text).isSome ↔ pattern.Matches text := by
  rw [firstMatch?]
  split
  · rename_i isMatch
    have found := isMatch_iff.mp isMatch
    have ⟨start, stop, inside, covers⟩ := found
    refine iff_of_true (List.find?_isSome.mpr ⟨start, ?_, ?_⟩) found
    · exact List.mem_range.mpr (Nat.lt_succ_of_le inside)
    · exact (startsAt_iff inside).mpr ⟨stop, covers⟩
  · rename_i noMatch
    exact iff_of_false Bool.false_ne_true fun found => noMatch (isMatch_iff.mpr found)

end Pattern

end Lineage.Regex
