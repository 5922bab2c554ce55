import Lineage.Proofs.BlockNesting
import Lineage.Proofs.BlockSites
import Lineage.Proofs.Verdicts

/-!
# Blocks that are never rendered

A template that extends another one may contain blocks that no template above contains, and the
index of the blocks looks only at whether such a block stands in another one.  The main result says
that this is enough: there is no warning exactly if each such block stands, at any depth, inside a
block that some template above contains.  Around a block that stands in others there is an outermost
one (`exists_outermost`), and since that stands in no other it would be warned about itself if no
template above contained it.
-/

namespace Lineage

open Lineage.Template Lineage.Text

/-- The block `inner` stands in the text inside the block `outer`, at any depth. -/
def Template.LiesWithin (text : List Char) (inner outer : String) : Prop :=
  ∃ parts before body line shapes, Segment.ofTemplate text = .ok parts ∧
    before ++ [.tag body line] <+: parts ∧
    (Segment.tag body line).mark? = some (.begins (.block inner)) ∧
    Mark.Runs (before.filterMap Segment.mark?) [] shapes ∧ .block outer ∈ shapes

/-- The block `inner` stands inside the block `outer` in the text that the template was read from. -/
def Tier.LiesWithin (tier : Tier) (inner outer : String) : Prop :=
  ∃ text, Parsed.ofTemplate tier.name text = .ok tier.parsed ∧
    Template.LiesWithin text inner outer

/-- The template of the chain that stands directly below `above`, which is not the root, contains
the block, and no template above does. -/
structure Chain.Introduces (chain : Chain) (above : List Tier) (tier : Tier) (name : String) :
    Prop where
  placed : above ++ [tier] <+: chain.tiers
  extending : above ≠ []
  contained : name ∈ tier.blockNames
  new : ∀ other ∈ above, name ∉ other.blockNames

/-! ## The outermost open block -/

/-- Some block is open exactly if there is an innermost one. -/
theorem Template.Mark.exists_block_iff {shapes : List Shape} :
    (∃ name, .block name ∈ shapes) ↔ (Mark.innermost? shapes).isSome = true := by
  rw [Mark.innermost?, List.isSome_findSome?, List.any_eq_true]
  constructor
  · rintro ⟨name, member⟩
    exact ⟨.block name, member, rfl⟩
  · rintro ⟨shape, member, isBlock⟩
    cases shape with
    | block name => exact ⟨name, member⟩
    | _ => cases isBlock

/-- Around a place in a block there is an open block that stands in no other. -/
theorem Template.Mark.exists_outermost {shapes : List Shape}
    (isOpen : (Mark.innermost? shapes).isSome = true) : ∃ inner outermost outer,
      shapes = inner ++ .block outermost :: outer ∧ Mark.innermost? outer = none := by
  induction shapes with
  | nil => cases isOpen
  | cons shape shapes ih =>
      cases around : Mark.innermost? shapes with
      | some name =>
          obtain ⟨inner, outermost, outer, rfl, alone⟩ := ih (by rw [around, Option.isSome_some])
          exact ⟨shape :: inner, outermost, outer, rfl, alone⟩
      | none =>
          obtain ⟨name, member⟩ := Mark.exists_block_iff.mpr isOpen
          rcases List.mem_cons.mp member with rfl | later
          · exact ⟨[], name, shapes, rfl, around⟩
          · have within := Mark.exists_block_iff.mp ⟨name, later⟩
            rw [around] at within
            cases within

namespace Template

variable {text : List Char} {parts : List Segment} {blocks : List Block}

/-- A block that stands in another one stands, at some depth, in one that stands in none. -/
theorem BlocksOf.exists_outermost (blocksOf : BlocksOf parts blocks)
    (cut : Segment.ofTemplate text = .ok parts) {block : Block} (member : block ∈ blocks)
    (enclosed : block.enclosing.isSome = true) :
    ∃ outermost ∈ blocks, outermost.enclosing = none ∧ LiesWithin text block.name outermost.name := by
  obtain ⟨before, body, isPrefix, isMark, shapes, runs, innermost⟩ := blocksOf.sound block member
  rw [← innermost] at enclosed
  obtain ⟨inner, name, outer, rfl, alone⟩ := Mark.exists_outermost enclosed
  obtain ⟨front, first, line, isFront, begins, toBlock⟩ := exists_tag_of_runs runs
  have inParts := isFront.trans ((List.prefix_append before _).trans isPrefix)
  obtain ⟨outermost, isBlock, rfl, _, around, runsTo, isAround⟩ :=
    blocksOf.complete front first line name inParts begins
  refine ⟨outermost, isBlock, ?_, parts, before, body, block.line, _, cut, isPrefix, isMark, runs,
    List.mem_append_right _ List.mem_cons_self⟩
  rw [← isAround, runsTo.unique toBlock, alone]

/-- A block that lies within another one is told a block around it. -/
theorem BlocksOf.isSome_enclosing (blocksOf : BlocksOf parts blocks)
    (cut : Segment.ofTemplate text = .ok parts) {block : Block} (member : block ∈ blocks)
    {outer : String} (within : LiesWithin text block.name outer) :
    block.enclosing.isSome = true := by
  obtain ⟨others, before, body, line, shapes, isCut, isPrefix, isMark, runs, isOpen⟩ := within
  cases cut.symm.trans isCut
  obtain ⟨found, isFound, same, _, around, runsTo, isAround⟩ :=
    blocksOf.complete before body line block.name isPrefix isMark
  obtain rfl : found = block :=
    List.inj_on_of_nodup_map blocksOf.distinct isFound member same
  rw [← isAround, runsTo.unique runs]
  exact Mark.exists_block_iff.mp ⟨outer, isOpen⟩

end Template

namespace Tier

variable {tier : Tier} {text : List Char} {block : Block}

theorem exists_outermost (read : Parsed.ofTemplate tier.name text = .ok tier.parsed)
    (member : block ∈ tier.parsed.blocks) (enclosed : block.enclosing.isSome = true) :
    ∃ outermost ∈ tier.parsed.blocks, outermost.enclosing = none ∧
      tier.LiesWithin block.name outermost.name := by
  obtain ⟨_, found, _⟩ := Parsed.ofTemplate_eq_ok_iff.mp read
  obtain ⟨parts, cut, blocksOf⟩ := Node.exists_blocksOf found
  obtain ⟨outermost, isBlock, alone, within⟩ := blocksOf.exists_outermost cut member enclosed
  exact ⟨outermost, isBlock, alone, text, read, within⟩

theorem LiesWithin.isSome_enclosing {outer : String} (within : tier.LiesWithin block.name outer)
    (member : block ∈ tier.parsed.blocks) : block.enclosing.isSome = true := by
  obtain ⟨text, read, within⟩ := within
  obtain ⟨_, found, _⟩ := Parsed.ofTemplate_eq_ok_iff.mp read
  obtain ⟨parts, cut, blocksOf⟩ := Node.exists_blocksOf found
  exact blocksOf.isSome_enclosing cut member within

end Tier

/-! ## The warnings of a chain -/

/-- The site of a block of the chain, by the templates that stand above its own. -/
theorem mem_blockSites_iff {tiers : List Tier} {site : BlockSite} :
    site ∈ blockSites tiers ↔
      site.above ++ [site.tier] <+: tiers ∧ site.block ∈ site.tier.parsed.blocks := by
  induction tiers using List.reverseRecOn with
  | nil => simp [blockSites]
  | append_singleton above tier ih =>
      rw [blockSites_concat, List.mem_append, ih, List.prefix_concat_iff, Tier.blockSites,
        List.mem_map]
      constructor
      · rintro (⟨isPrefix, member⟩ | ⟨block, member, rfl⟩)
        · exact ⟨Or.inr isPrefix, member⟩
        · exact ⟨Or.inl rfl, member⟩
      · rintro ⟨same | isPrefix, member⟩
        · obtain ⟨rfl, rfl⟩ : site.above = above ∧ site.tier = tier := by simpa using same
          exact Or.inr ⟨site.block, member, rfl⟩
        · exact Or.inl ⟨isPrefix, member⟩

theorem BlockSite.inherits_eq_false_iff {site : BlockSite} :
    site.inherits = false ↔ ∀ other ∈ site.above, site.block.name ∉ other.blockNames := by
  simp [inherits, Tier.defines]

/-- A site is dead if the template introduces the block and it stands in no other one. -/
theorem BlockSite.isDead_eq_true_iff {chain : Chain} {site : BlockSite}
    (member : site ∈ blockSites chain.tiers) : site.isDead = true ↔
      chain.Introduces site.above site.tier site.block.name ∧ site.block.enclosing = none := by
  obtain ⟨isPrefix, isBlock⟩ := mem_blockSites_iff.mp member
  have contained : site.block.name ∈ site.tier.blockNames := List.mem_map_of_mem isBlock
  simp only [isDead, Bool.and_eq_true, Bool.not_eq_true', List.isEmpty_eq_false_iff,
    Option.isNone_iff_eq_none, inherits_eq_false_iff]
  constructor
  · rintro ⟨⟨extending, alone⟩, new⟩
    exact ⟨⟨isPrefix, extending, contained, new⟩, alone⟩
  · rintro ⟨introduced, alone⟩
    exact ⟨⟨introduced.extending, alone⟩, introduced.new⟩

namespace BlockIndex

/-- If there is an index of the blocks of a chain, there are no warnings, and the check for blocks
that are never rendered is passed, exactly if every block that a template introduces lies in that
template within a block that some template above contains. -/
theorem ofChain_warnings_eq_nil_iff {resolution : Resolution} {intake : Intake} {chain : Chain}
    {index : BlockIndex} (readings : intake.parses.HoldsReadings)
    (found : (resolution.run intake).1 = .ok chain) (indexed : ofChain chain = .ok index) :
    (index.warnings = [] ↔ ∀ above tier name, chain.Introduces above tier name →
      ∃ outer, tier.LiesWithin name outer ∧ ∃ other ∈ above, outer ∈ other.blockNames) ∧
    ∀ (analysis : Analysis) content, analysis.blocks = index →
      ((analysis.check content .noDeadOverrides).status = .passed ↔ index.warnings = []) := by
  have indexes := answers_ofChain (Resolution.run_blockNames_nodup readings found)
  rw [indexed] at indexes
  constructor
  · rw [indexes.warnings, List.map_eq_nil_iff, List.filter_eq_nil_iff]
    constructor
    · rintro alive above tier name introduced
      obtain ⟨block, isBlock, rfl⟩ := List.mem_map.mp introduced.contained
      have isSite {other : Block} (member : other ∈ tier.parsed.blocks) :
          (⟨above, tier, other⟩ : BlockSite) ∈ blockSites chain.tiers :=
        mem_blockSites_iff.mpr ⟨introduced.placed, member⟩
      have enclosed : block.enclosing.isSome = true := by
        rw [Option.isSome_iff_ne_none]
        intro alone
        exact alive _ (isSite isBlock)
          ((BlockSite.isDead_eq_true_iff (isSite isBlock)).mpr ⟨introduced, alone⟩)
      have member := introduced.placed.subset (List.mem_append_right _ List.mem_cons_self)
      obtain ⟨text, read⟩ := Resolution.run_readings readings found tier member
      obtain ⟨outermost, isOuter, alone, within⟩ := Tier.exists_outermost read isBlock enclosed
      refine ⟨outermost.name, within, ?_⟩
      -- Otherwise the template would introduce the outermost block too.
      by_contra new
      simp only [not_exists, not_and] at new
      exact alive _ (isSite isOuter) ((BlockSite.isDead_eq_true_iff (isSite isOuter)).mpr
        ⟨⟨introduced.placed, introduced.extending, List.mem_map_of_mem isOuter, new⟩, alone⟩)
    · intro covered site member dead
      obtain ⟨introduced, alone⟩ := (BlockSite.isDead_eq_true_iff member).mp dead
      obtain ⟨outer, within, _⟩ := covered site.above site.tier site.block.name introduced
      have enclosed := within.isSome_enclosing (mem_blockSites_iff.mp member).2
      rw [alone] at enclosed
      cases enclosed
  · rintro analysis content rfl
    exact (Verdict.decides_ofWarnings _).passed

/-- A new block stands inside an inherited one, with a condition between the two. -/
theorem ofChain_warnings_of_nested :
    let root := Source.ofText (Sample.block "body" "")
    let leaf := Source.ofText (Sample.extendsTag "root" ++
      Sample.block "body" (Sample.tag "if x" ++ Sample.block "aside" "" ++ Sample.tag "endif"))
    let library : Library := ⟨[("root", root), ("leaf", leaf)]⟩
    let above : Tier := ⟨"root", root, "root", [.block ⟨"body", false, none, 1⟩]⟩
    let tier : Tier := ⟨"leaf", leaf, "leaf", [.extends (.literal "root") 1,
      .block ⟨"body", false, none, 1⟩, .read "x" .conditional 1,
      .block ⟨"aside", false, some "body", 1⟩]⟩
    let chain : Chain := ⟨[above, tier], List.cons_ne_nil _ _⟩
    (Resolution.run ⟨library.lookup, "leaf", 2⟩ .empty).1 = .ok chain ∧
      ∃ index, ofChain chain = .ok index ∧ index.warnings = [] ∧
        chain.Introduces [above] tier "aside" ∧
        ∃ outer, tier.LiesWithin "aside" outer ∧ ∃ other ∈ [above], outer ∈ other.blockNames := by
  intro root leaf library above tier chain
  have found : (Resolution.run ⟨library.lookup, "leaf", 2⟩ .empty).1 = .ok chain := by
    refine Resolution.run_of_isChain rfl (by decide) (by decide) ?_ (by decide) (Nat.le_refl 2)
      (ParseCache.truthful_empty _)
    simp only [chain, List.forall_mem_cons]
    exact ⟨⟨rfl, by decide +kernel⟩, ⟨rfl, by decide +kernel⟩, by simp⟩
  have introduced : chain.Introduces [above] tier "aside" :=
    ⟨List.prefix_refl _, List.cons_ne_nil _ _, by decide, by decide⟩
  refine ⟨found, ?_⟩
  have answers := answers_ofChain (Resolution.run_blockNames_nodup ParseCache.holdsReadings_empty
    found)
  cases done : ofChain chain with
  | error failure =>
      rw [done] at answers
      obtain ⟨site, orphan, _⟩ := answers
      have noOrphan : (blockSites chain.tiers).find? BlockSite.isOrphan = none := by decide +kernel
      exact nomatch noOrphan.symm.trans orphan
  | ok index =>
      rw [done] at answers
      have quiet : index.warnings = [] := by
        rw [answers.warnings]
        decide +kernel
      have covered := (ofChain_warnings_eq_nil_iff ParseCache.holdsReadings_empty found done).1.mp
        quiet
      exact ⟨index, rfl, quiet, introduced, covered _ _ _ introduced⟩

end BlockIndex

end Lineage
