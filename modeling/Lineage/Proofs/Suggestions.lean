import Lineage.Proofs.DeadBlocks
import Lineage.Proofs.EditDistances
import Mathlib.Data.String.Basic

/-!
# The names that warnings suggest

A warning about a block suggests a name that the templates above contain.  It should be the first
one of those with the least distance, and there should be one if that distance is small enough
(`BlockIndex.Suggests`).  The search goes through the names once and keeps the best one so far
(`Suggests.concat`).  It does not matter that each name is looked at only where it comes first
(`isFirstClosest_eraseDups_iff`).

The main result says that the names are searched as they should be with half the length in bytes as
the limit.  Distances are counted in characters, though.  So with half the number of characters as
the limit the same can be said only of a warning whose suggestion is within that limit.
-/

namespace Lineage

open Lineage.Template Lineage.Text

namespace BlockIndex

/-- A name has the least distance of all, and every name before it has a larger one. -/
def IsFirstClosest (distance : String → Nat) (names : List String) (name : String) : Prop :=
  ∃ before after, names = before ++ name :: after ∧
    (∀ other ∈ before, distance name < distance other) ∧
    ∀ other ∈ after, distance name ≤ distance other

/-- A name is suggested exactly if one of the names is near enough, and then it is the first one
with the least distance. -/
structure Suggests (limit : Nat) (distance : String → Nat) (names : List String)
    (suggestion : Option String) : Prop where
  isSome_iff : suggestion.isSome = true ↔ ∃ name ∈ names, distance name ≤ limit
  closest : ∀ name, suggestion = some name → IsFirstClosest distance names name

variable {distance : String → Nat} {names : List String} {name new : String}
  {limit less : Nat} {suggestion : Option String}

/-! ## The first of the closest names -/

theorem IsFirstClosest.mem (isFirst : IsFirstClosest distance names name) : name ∈ names := by
  obtain ⟨before, after, rfl, _, _⟩ := isFirst
  exact List.mem_append_right _ List.mem_cons_self

theorem IsFirstClosest.le (isFirst : IsFirstClosest distance names name) {other : String}
    (member : other ∈ names) : distance name ≤ distance other := by
  obtain ⟨before, after, rfl, closer, close⟩ := isFirst
  rw [List.mem_append, List.mem_cons] at member
  rcases member with member | rfl | member
  · exact Nat.le_of_lt (closer other member)
  · exact Nat.le_refl _
  · exact close other member

/-- One more name is the first closest one only if it is closer than all others. -/
theorem isFirstClosest_concat_iff : IsFirstClosest distance (names ++ [new]) name ↔
    IsFirstClosest distance names name ∧ distance name ≤ distance new ∨
      name = new ∧ ∀ other ∈ names, distance new < distance other := by
  constructor
  · rintro ⟨before, after, same, closer, close⟩
    rcases List.eq_nil_or_concat' after with rfl | ⟨after, last, rfl⟩
    · obtain ⟨rfl, rfl⟩ : names = before ∧ new = name := by simpa using same
      exact .inr ⟨rfl, closer⟩
    · obtain ⟨rfl, rfl⟩ : names = before ++ name :: after ∧ new = last := by
        rw [← List.cons_append, ← List.append_assoc] at same
        exact List.append_singleton_inj.mp same
      refine .inl ⟨⟨before, after, rfl, closer, fun other member => ?_⟩, ?_⟩
      · exact close other (List.mem_append_left _ member)
      · exact close new (List.mem_append_right _ List.mem_cons_self)
  · rintro (⟨⟨before, after, rfl, closer, close⟩, further⟩ | ⟨rfl, closer⟩)
    · refine ⟨before, after ++ [new], by simp, closer, ?_⟩
      simpa [or_imp, forall_and] using ⟨close, further⟩
    · exact ⟨names, [], rfl, closer, by simp⟩

/-- Names that have come before make no difference. -/
theorem isFirstClosest_eraseDups_iff :
    IsFirstClosest distance names.eraseDups name ↔ IsFirstClosest distance names name := by
  induction names using List.reverseRecOn with
  | nil => rw [List.eraseDups_nil]
  | append_singleton names new ih =>
      rw [eraseDups_concat]
      split
      · next member =>
          rw [ih, isFirstClosest_concat_iff]
          constructor
          · intro isFirst
            exact .inl ⟨isFirst, isFirst.le member⟩
          · rintro (⟨isFirst, _⟩ | ⟨_, closer⟩)
            · exact isFirst
            · exact absurd (closer new member) (Nat.lt_irrefl _)
      · simp only [isFirstClosest_concat_iff, ih, List.mem_eraseDups]

/-! ## Suggestions -/

/-- The closer one of the best name so far and a further one. -/
def closer (distance : String → Nat) (best : Option String) (name : String) : Option String :=
  match best with
  | some other => if distance name < distance other then some name else some other
  | none => some name

theorem closest?_eq_foldl (limit : Nat) (distance : String → Nat) (names : List String) :
    closest? limit distance names =
      (names.filter fun name => distance name ≤ limit).foldl (closer distance) none :=
  rfl

namespace Suggests

theorem distance_le (suggests : Suggests limit distance names suggestion)
    (found : suggestion = some name) : distance name ≤ limit := by
  obtain ⟨other, member, near⟩ := suggests.isSome_iff.mp (by rw [found, Option.isSome_some])
  exact ((suggests.closest name found).le member).trans near

/-- With a smaller limit the same is suggested as long as it is within that limit. -/
theorem iff_of_le (suggests : Suggests limit distance names suggestion) (smaller : less ≤ limit) :
    Suggests less distance names suggestion ↔
      ∀ name, suggestion = some name → distance name ≤ less := by
  constructor
  · exact fun suggestsLess name => suggestsLess.distance_le
  · intro near
    refine ⟨?_, suggests.closest⟩
    constructor
    · intro found
      obtain ⟨name, found⟩ := Option.isSome_iff_exists.mp found
      exact ⟨name, (suggests.closest name found).mem, near name found⟩
    · rintro ⟨other, member, close⟩
      exact suggests.isSome_iff.mpr ⟨other, member, close.trans smaller⟩

theorem of_eraseDups (suggests : Suggests limit distance names.eraseDups suggestion) :
    Suggests limit distance names suggestion where
  isSome_iff := by simpa only [List.mem_eraseDups] using suggests.isSome_iff
  closest name found := isFirstClosest_eraseDups_iff.mp (suggests.closest name found)

/-- A name that is not near enough changes nothing. -/
theorem far (suggests : Suggests limit distance names suggestion) (far : limit < distance new) :
    Suggests limit distance (names ++ [new]) suggestion where
  isSome_iff := by
    rw [suggests.isSome_iff]
    simp [or_and_right, exists_or, far]
  closest name found := by
    have near := suggests.distance_le found
    exact isFirstClosest_concat_iff.mpr (.inl ⟨suggests.closest name found, by omega⟩)

/-- A name that is near enough takes the place of one that is not as close. -/
theorem near (suggests : Suggests limit distance names suggestion) (near : distance new ≤ limit) :
    Suggests limit distance (names ++ [new]) (closer distance suggestion new) := by
  have exists_near : ∃ name ∈ names ++ [new], distance name ≤ limit :=
    ⟨new, List.mem_append_right _ List.mem_cons_self, near⟩
  cases suggestion with
  | none =>
      refine ⟨iff_of_true rfl exists_near, ?_⟩
      rintro name ⟨⟩
      refine isFirstClosest_concat_iff.mpr (.inr ⟨rfl, fun other member => ?_⟩)
      by_contra close
      exact nomatch suggests.isSome_iff.mpr ⟨other, member, by omega⟩
  | some best =>
      have isFirst := suggests.closest best rfl
      rw [closer]
      split
      · next isCloser =>
          refine ⟨iff_of_true rfl exists_near, ?_⟩
          rintro name ⟨⟩
          exact isFirstClosest_concat_iff.mpr
            (.inr ⟨rfl, fun other member => isCloser.trans_le (isFirst.le member)⟩)
      · next notCloser =>
          refine ⟨iff_of_true rfl exists_near, ?_⟩
          rintro name ⟨⟩
          exact isFirstClosest_concat_iff.mpr (.inl ⟨isFirst, by omega⟩)

end Suggests

/-- The search goes through the names and keeps the best one so far. -/
theorem suggests_closest? (limit : Nat) (distance : String → Nat) (names : List String) :
    Suggests limit distance names (closest? limit distance names) := by
  induction names using List.reverseRecOn with
  | nil => exact ⟨by simp [closest?], fun name found => nomatch found⟩
  | append_singleton names new ih =>
      rw [closest?_eq_foldl, List.filter_append, List.foldl_append, ← closest?_eq_foldl,
        List.filter_singleton]
      by_cases isNear : distance new ≤ limit
      · rw [decide_eq_true isNear]
        exact ih.near isNear
      · rw [decide_eq_false isNear]
        exact ih.far (Nat.lt_of_not_le isNear)

/-! ## The limit -/

theorem similarity_eq (name : String) : similarity name = name.utf8ByteSize / 2 := by
  rw [similarity]
  omega

/-- A character takes at least one byte. -/
theorem length_le_utf8ByteSize (name : String) : name.length ≤ name.utf8ByteSize := by
  rw [← String.utf8Len_toList, ← String.length_toList]
  induction name.toList with
  | nil => exact Nat.le_refl 0
  | cons c text ih =>
      have positive := c.utf8Size_pos
      rw [String.utf8Len_cons, List.length_cons]
      omega

theorem utf8ByteSize_eq_length {name : String} (ascii : ∀ c ∈ name.toList, c.utf8Size = 1) :
    name.utf8ByteSize = name.length := by
  rw [← String.utf8Len_toList, ← String.length_toList]
  generalize name.toList = text at ascii ⊢
  induction text with
  | nil => rfl
  | cons c text ih =>
      rw [List.forall_mem_cons] at ascii
      rw [String.utf8Len_cons, List.length_cons, ih ascii.2, ascii.1]

/-! ## The warnings of a chain -/

/-- The warning about a block suggests one of the names in the templates above. -/
theorem suggests_warning (site : BlockSite) :
    Suggests (site.block.name.utf8ByteSize / 2)
      (fun name => editDistance site.block.name.toList name.toList)
      (site.above.flatMap Tier.blockNames) site.warning.suggestion := by
  rw [← similarity_eq]
  exact (suggests_closest? _ _ _).of_eraseDups

/-- A warning about a block looks for its suggestion among the names in the templates above, each at
the least number of edits that turn the name of the block into it.  Some name is suggested exactly
if one is at most half the bytes of the block's name away, and then it is the first one of the
closest.  The same holds with half the characters exactly if the suggested name is that close, as it
always is if each character of the block's name takes one byte. -/
theorem ofChain_suggestions {resolution : Resolution} {intake : Intake} {chain : Chain}
    {index : BlockIndex} (readings : intake.parses.HoldsReadings)
    (found : (resolution.run intake).1 = .ok chain) (indexed : ofChain chain = .ok index) :
    ∀ warning ∈ index.warnings, ∃ above tier, above ++ [tier] <+: chain.tiers ∧
      tier.name = warning.template ∧ warning.block ∈ tier.blockNames ∧
      ∃ distance : String → Nat,
        (∀ name, IsLeast {count | Edits count warning.block.toList name.toList} (distance name)) ∧
        Suggests (warning.block.utf8ByteSize / 2) distance (above.flatMap Tier.blockNames)
          warning.suggestion ∧
        (Suggests (warning.block.length / 2) distance (above.flatMap Tier.blockNames)
            warning.suggestion ↔
          ∀ name, warning.suggestion = some name → distance name ≤ warning.block.length / 2) ∧
        ((∀ c ∈ warning.block.toList, c.utf8Size = 1) →
          Suggests (warning.block.length / 2) distance (above.flatMap Tier.blockNames)
            warning.suggestion) := by
  intro warning member
  have indexes := answers_ofChain (Resolution.run_blockNames_nodup readings found)
  rw [indexed] at indexes
  rw [indexes.warnings] at member
  obtain ⟨site, isDead, rfl⟩ := List.mem_map.mp member
  obtain ⟨placed, isBlock⟩ := mem_blockSites_iff.mp (List.mem_filter.mp isDead).1
  have suggests := suggests_warning site
  have fewer : site.block.name.length / 2 ≤ site.block.name.utf8ByteSize / 2 :=
    Nat.div_le_div_right (length_le_utf8ByteSize _)
  refine ⟨site.above, site.tier, placed, rfl, List.mem_map_of_mem isBlock, _,
    fun name => isLeast_editDistance _ _, suggests, suggests.iff_of_le fewer, ?_⟩
  intro oneByte
  rw [← utf8ByteSize_eq_length oneByte]
  exact suggests

/-- Of two names that are equally close to a misspelled one the first is suggested. -/
theorem ofChain_suggestions_tie :
    let root := Source.ofText (Sample.block "foster" "" ++ Sample.block "footer" "")
    let leaf := Source.ofText (Sample.extendsTag "root" ++ Sample.block "foter" "")
    let library : Library := ⟨[("root", root), ("leaf", leaf)]⟩
    let above : Tier := ⟨"root", root, "root",
      [.block ⟨"foster", false, none, 1⟩, .block ⟨"footer", false, none, 1⟩]⟩
    let tier : Tier := ⟨"leaf", leaf, "leaf", [.extends (.literal "root") 1,
      .block ⟨"foter", false, none, 1⟩]⟩
    let chain : Chain := ⟨[above, tier], List.cons_ne_nil _ _⟩
    (Resolution.run ⟨library.lookup, "leaf", 2⟩ .empty).1 = .ok chain ∧
      ∃ index, ofChain chain = .ok index ∧
        index.warnings = [⟨"foter", "leaf", 1, some "foster"⟩] ∧
        ∃ above tier, above ++ [tier] <+: chain.tiers ∧ tier.name = "leaf" ∧
          ∃ distance : String → Nat,
            (∀ name, IsLeast {count | Edits count "foter".toList name.toList} (distance name)) ∧
            Suggests 2 distance (above.flatMap Tier.blockNames) (some "foster") := by
  intro root leaf library above tier chain
  have found : (Resolution.run ⟨library.lookup, "leaf", 2⟩ .empty).1 = .ok chain := by
    refine Resolution.run_of_isChain rfl (by decide) (by decide) ?_ (by decide) (Nat.le_refl 2)
      (ParseCache.truthful_empty _)
    simp only [chain, List.forall_mem_cons]
    exact ⟨⟨rfl, by decide +kernel⟩, ⟨rfl, by decide +kernel⟩, by simp⟩
  obtain ⟨index, done, indexes⟩ := exists_indexes
    (Resolution.run_blockNames_nodup ParseCache.holdsReadings_empty found) (by decide +kernel)
  have warned : index.warnings = [⟨"foter", "leaf", 1, some "foster"⟩] := by
    rw [indexes.warnings]
    decide +kernel
  have oneByteEach : ∀ c ∈ "foter".toList, c.utf8Size = 1 := by
    have all : "foter".toList.all (·.utf8Size == 1) = true := by decide +kernel
    exact fun c member => beq_iff_eq.mp (List.all_eq_true.mp all c member)
  obtain ⟨tiersAbove, below, placed, isLeaf, _, distance, least, _, _, oneByte⟩ :=
    ofChain_suggestions ParseCache.holdsReadings_empty found done
      ⟨"foter", "leaf", 1, some "foster"⟩ (by rw [warned]; exact List.mem_singleton_self _)
  exact ⟨found, index, done, warned, tiersAbove, below, placed, isLeaf, distance, least,
    oneByte oneByteEach⟩

/-- For a name of one character that takes two bytes one is suggested that shares nothing with it,
although half the number of its characters is zero. -/
theorem ofChain_suggestions_twoBytes :
    let root := Source.ofText (Sample.block "a" "")
    let leaf := Source.ofText (Sample.extendsTag "root" ++ Sample.block "é" "")
    let library : Library := ⟨[("root", root), ("leaf", leaf)]⟩
    let above : Tier := ⟨"root", root, "root", [.block ⟨"a", false, none, 1⟩]⟩
    let tier : Tier := ⟨"leaf", leaf, "leaf", [.extends (.literal "root") 1,
      .block ⟨"é", false, none, 1⟩]⟩
    let chain : Chain := ⟨[above, tier], List.cons_ne_nil _ _⟩
    (Resolution.run ⟨library.lookup, "leaf", 2⟩ .empty).1 = .ok chain ∧
      ∃ index, ofChain chain = .ok index ∧ index.warnings = [⟨"é", "leaf", 1, some "a"⟩] ∧
        ∀ distance : String → Nat,
          (∀ name, IsLeast {count | Edits count "é".toList name.toList} (distance name)) →
          ¬ Suggests ("é".length / 2) distance ([above].flatMap Tier.blockNames) (some "a") := by
  intro root leaf library above tier chain
  have found : (Resolution.run ⟨library.lookup, "leaf", 2⟩ .empty).1 = .ok chain := by
    refine Resolution.run_of_isChain rfl (by decide) (by decide) ?_ (by decide) (Nat.le_refl 2)
      (ParseCache.truthful_empty _)
    simp only [chain, List.forall_mem_cons]
    exact ⟨⟨rfl, by decide +kernel⟩, ⟨rfl, by decide +kernel⟩, by simp⟩
  obtain ⟨index, done, indexes⟩ := exists_indexes
    (Resolution.run_blockNames_nodup ParseCache.holdsReadings_empty found) (by decide +kernel)
  refine ⟨found, index, done, ?_, ?_⟩
  · rw [indexes.warnings]
    decide +kernel
  · intro distance least suggests
    have near := suggests.distance_le rfl
    rw [(least "a").unique (isLeast_editDistance _ _)] at near
    exact absurd near (by decide +kernel)

end BlockIndex

end Lineage
