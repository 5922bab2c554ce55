import Lineage.Blocks
import Lineage.Samples
import Lineage.Proofs.Ancestors
import Lineage.Proofs.BlockNames
import Lineage.Proofs.OrderedMaps

/-!
# The blocks of a chain by the templates that contain them

Every block of a chain has a site: its template and the templates above that (`BlockSite`).  The
sites are listed from the root to the leaf, and within a template by the source (`blockSites`).  The
main result tells the index of a chain from its sites.  There is none exactly if some block calls
`super()` and no template above contains the block, and the failure is about the first such site.
Otherwise the names come in the order of their first sites, the first template that contains a block
defines it, the later ones override it, and the warnings are those about the sites that are dead.

The sites are taken into account one after another (`BlockIndex.Indexes`).  An index knows a name as
soon as a block before has it.  That is the same as that a template above contains it, since no
template contains two blocks of the same name.
-/

namespace Lineage

open Template (Block)

namespace Tier

/-- The block of the given name in the template. -/
def block? (tier : Tier) (name : String) : Option Block :=
  tier.parsed.blocks.find? (·.name = name)

/-- Whether the template contains a block of the given name. -/
def defines (tier : Tier) (name : String) : Bool :=
  tier.blockNames.contains name

end Tier

/-- A block with its template and the templates above, from the root on. -/
structure BlockSite where
  above : List Tier
  tier : Tier
  block : Block

namespace BlockSite

/-- Whether some template above contains a block of the same name. -/
def inherits (site : BlockSite) : Bool :=
  site.above.any (·.defines site.block.name)

/-- Whether the block calls `super()` and inherits nothing. -/
def isOrphan (site : BlockSite) : Bool :=
  site.block.callsSuper && !site.inherits

/-- Whether the block is never rendered: it inherits nothing, stands in a template that extends
another one, and in no other block. -/
def isDead (site : BlockSite) : Bool :=
  !site.above.isEmpty && site.block.enclosing.isNone && !site.inherits

/-- The failure that an orphan is. -/
def failure (site : BlockSite) : Failure :=
  .superWithoutAncestor site.tier.name site.block.name

/-- The warning about a block that is dead.  A similar name is looked for among those of the blocks
above. -/
def warning (site : BlockSite) : BlockWarning where
  block := site.block.name
  template := site.tier.name
  line := site.block.line
  suggestion :=
    BlockIndex.similarName? site.block.name (site.above.flatMap Tier.blockNames).eraseDups

/-- The template and the `super` flag of the block. -/
def version (site : BlockSite) : BlockOverride :=
  ⟨site.tier.name, site.block.callsSuper⟩

/-- The place of the template in its chain. -/
def position (site : BlockSite) : BlockIndex.Position :=
  ⟨site.tier.name, site.above.isEmpty, (site.above.flatMap Tier.blockNames).eraseDups⟩

end BlockSite

/-- The sites of the blocks of one template. -/
def Tier.blockSites (tier : Tier) (above : List Tier) : List BlockSite :=
  tier.parsed.blocks.map fun block => ⟨above, tier, block⟩

/-- The sites of the blocks of templates that are listed from the root on. -/
def blockSites (tiers : List Tier) : List BlockSite :=
  tiers.zipIdx.flatMap fun (tier, position) => tier.blockSites (tiers.take position)

/-- The templates of a chain that contain a block of the given name, each with its `super` flag. -/
def Chain.versions (chain : Chain) (name : String) : List BlockOverride :=
  chain.tiers.filterMap fun tier =>
    (tier.block? name).map fun block => ⟨tier.name, block.callsSuper⟩

/-! ## The list of sites -/

theorem blockSites_concat (above : List Tier) (tier : Tier) :
    blockSites (above ++ [tier]) = blockSites above ++ tier.blockSites above := by
  rw [blockSites, List.zipIdx_append, List.flatMap_append, blockSites]
  congr 1
  · apply List.flatMap_congr
    rintro ⟨other, position⟩ member
    have lt := List.snd_lt_of_mem_zipIdx member
    dsimp only at lt ⊢
    rw [List.take_append_of_le_length (by omega)]
  · simp

theorem blockSites_isPrefix (above below : List Tier) :
    blockSites above <+: blockSites (above ++ below) := by
  induction below using List.reverseRecOn with
  | nil => simp
  | append_singleton below tier ih =>
      rw [← List.append_assoc, blockSites_concat]
      exact ih.trans (List.prefix_append _ _)

theorem tier_mem_of_mem_blockSites {tiers : List Tier} {site : BlockSite}
    (member : site ∈ blockSites tiers) : site.tier ∈ tiers := by
  obtain ⟨⟨tier, position⟩, isTier, ofTier⟩ := List.mem_flatMap.mp member
  obtain ⟨block, _, rfl⟩ := List.mem_map.mp ofTier
  exact List.fst_mem_of_mem_zipIdx isTier

theorem Tier.map_name_blockSites (tier : Tier) (above : List Tier) :
    (tier.blockSites above).map (·.block.name) = tier.blockNames := by
  rw [blockSites, List.map_map, blockNames]
  rfl

theorem map_name_blockSites (tiers : List Tier) :
    (blockSites tiers).map (·.block.name) = tiers.flatMap Tier.blockNames := by
  rw [blockSites, List.map_flatMap]
  simp only [Tier.map_name_blockSites]
  conv_rhs => rw [← List.zipIdx_map_fst 0 tiers, List.flatMap_map]

theorem mem_blockNames_flatMap_iff {tiers : List Tier} {name : String} :
    name ∈ tiers.flatMap Tier.blockNames ↔ tiers.any (·.defines name) = true := by
  simp [Tier.defines]

/-- The sites of a name, if no template contains two blocks of the same name. -/
theorem versions_blockSites {tiers : List Tier}
    (distinct : ∀ tier ∈ tiers, tier.blockNames.Nodup) (name : String) :
    ((blockSites tiers).filter (·.block.name = name)).map BlockSite.version =
      tiers.filterMap fun tier =>
        (tier.block? name).map fun block => ⟨tier.name, block.callsSuper⟩ := by
  -- from the last template on, because the sites of a template know those above
  induction tiers using List.reverseRecOn with
  | nil => rfl
  | append_singleton above tier ih =>
      have before := ih fun other member => distinct other (List.mem_append_left _ member)
      have here : tier.parsed.blocks.filter (·.name = name) = (tier.block? name).toList :=
        filter_of_nodup (distinct tier (by simp)) name
      have sites : ((tier.blockSites above).filter (·.block.name = name)).map BlockSite.version =
          (tier.block? name).toList.map fun block => ⟨tier.name, block.callsSuper⟩ := by
        rw [← here, Tier.blockSites, List.filter_map, List.map_map]
        rfl
      rw [blockSites_concat, List.filter_append, List.map_append, before, sites,
        List.filterMap_append]
      cases found : tier.block? name <;> simp [found]

/-! ## The index of the sites so far -/

/-- The definition of a block that the given templates contain. -/
def BlockDefinition.ofVersions (name : String) : List BlockOverride → Option BlockDefinition
  | [] => none
  | first :: later => some ⟨name, first.template, later⟩

/-- One more template overrides a block that there is. -/
theorem BlockDefinition.ofVersions_concat {name : String} {versions : List BlockOverride}
    (inherited : versions ≠ []) (version : BlockOverride) :
    ofVersions name (versions ++ [version]) = (ofVersions name versions).map fun definition =>
      { definition with overrides := definition.overrides ++ [version] } := by
  cases versions with
  | nil => exact absurd rfl inherited
  | cons first later => rfl

namespace BlockIndex

/-- The index tells of the sites what it should, and none of them is an orphan. -/
structure Indexes (sites : List BlockSite) (index : BlockIndex) : Prop where
  indexed : index.blocks.Indexed
  keys : index.blocks.keys = (sites.map (·.block.name)).eraseDups
  definitions : ∀ name, index.get? name =
    BlockDefinition.ofVersions name ((sites.filter (·.block.name = name)).map BlockSite.version)
  warnings : index.warnings = (sites.filter BlockSite.isDead).map BlockSite.warning
  noOrphan : sites.find? BlockSite.isOrphan = none

/-- Whether an outcome is the one that the sites call for: an index of them, or the failure of the
first orphan. -/
def Answers (sites : List BlockSite) : Except Failure BlockIndex → Prop
  | .ok index => Indexes sites index
  | .error failure => ∃ site, sites.find? BlockSite.isOrphan = some site ∧ failure = site.failure

variable {sites more : List BlockSite} {site : BlockSite} {index : BlockIndex}

theorem indexes_empty : Indexes [] empty where
  indexed := OrderedMap.indexed_empty
  keys := rfl
  definitions := OrderedMap.get?_empty
  warnings := rfl
  noOrphan := rfl

theorem Indexes.contains_iff (indexes : Indexes sites index) {name : String} :
    index.contains name = true ↔ name ∈ sites.map (·.block.name) := by
  rw [contains, indexes.indexed.contains_iff, indexes.keys, List.mem_eraseDups]

/-- Whether a name has a site is the same as whether it has a version. -/
theorem filter_name_eq_nil_iff {name : String} :
    sites.filter (·.block.name = name) = [] ↔ name ∉ sites.map (·.block.name) := by
  rw [List.filter_eq_nil_iff, List.mem_map, not_exists]
  simp only [decide_eq_true_eq, not_and]

/-- One more site adds a version to its own name only. -/
theorem versions_concat (sites : List BlockSite) (site : BlockSite) (name : String) :
    ((sites ++ [site]).filter (·.block.name = name)).map BlockSite.version =
      (sites.filter (·.block.name = name)).map BlockSite.version ++
        if site.block.name = name then [site.version] else [] := by
  rw [List.filter_append, List.map_append, List.filter_singleton]
  by_cases same : site.block.name = name
  · simp [same]
  · simp [same]

/-- A block that inherits nothing deserves a warning if it is dead. -/
theorem warning?_eq (inheritsNothing : site.inherits = false) :
    warning? site.position site.block = if site.isDead then some site.warning else none := by
  unfold warning? BlockSite.isDead
  rw [inheritsNothing]
  cases site.block.enclosing with
  | none =>
      cases root : site.above.isEmpty with
      | true => simp [BlockSite.position, root]
      | false =>
          simp only [BlockSite.position, root]
          rfl
  | some around => simp

/-- A block that inherits something is one more version of the name. -/
theorem Indexes.override (indexes : Indexes sites index)
    (member : site.block.name ∈ sites.map (·.block.name)) (inherits : site.inherits = true) :
    Indexes (sites ++ [site]) { index with
      blocks := index.blocks.modify site.block.name fun definition =>
        { definition with overrides := definition.overrides ++ [site.version] } } where
  indexed := indexes.indexed.modify _ _
  keys := by
    rw [indexes.indexed.keys_modify, indexes.keys, List.map_append, List.map_singleton,
      eraseDups_concat, if_pos member]
  definitions name := by
    rw [get?, indexes.indexed.get?_modify, ← get?, ← get?, indexes.definitions,
      indexes.definitions, versions_concat]
    by_cases same : site.block.name = name
    · subst same
      have inherited : (sites.filter (·.block.name = site.block.name)).map BlockSite.version ≠ [] :=
        mt List.map_eq_nil_iff.mp (mt filter_name_eq_nil_iff.mp (not_not.mpr member))
      rw [if_pos rfl, if_pos rfl, BlockDefinition.ofVersions_concat inherited]
    · rw [if_neg (Ne.symm same), if_neg same, List.append_nil]
  warnings := by simp [indexes.warnings, BlockSite.isDead, inherits]
  noOrphan := by simp [List.find?_append, indexes.noOrphan, BlockSite.isOrphan, inherits]

/-- A block that inherits nothing, and does not call `super()`, defines the name. -/
theorem Indexes.define (indexes : Indexes sites index)
    (new : site.block.name ∉ sites.map (·.block.name)) (inherits : site.inherits = false)
    (callsSuper : site.block.callsSuper = false) :
    Indexes (sites ++ [site])
      { blocks := index.blocks.push site.block.name ⟨site.block.name, site.tier.name, []⟩
        warnings := index.warnings ++ (warning? site.position site.block).toList } := by
  have newKey : site.block.name ∉ index.blocks.keys := by
    rwa [indexes.keys, List.mem_eraseDups]
  constructor
  · exact indexes.indexed.push newKey _
  · rw [OrderedMap.keys_push, indexes.keys, List.map_append, List.map_singleton,
      eraseDups_concat, if_neg new]
  · intro name
    rw [get?, indexes.indexed.get?_push newKey, ← get?, indexes.definitions, versions_concat]
    by_cases same : site.block.name = name
    · subst same
      rw [if_pos rfl, if_pos rfl, filter_name_eq_nil_iff.mpr new]
      rfl
    · rw [if_neg (Ne.symm same), if_neg same, List.append_nil]
  · rw [warning?_eq inherits, indexes.warnings, List.filter_append, List.map_append,
      List.filter_singleton]
    cases site.isDead <;> rfl
  · simp [List.find?_append, indexes.noOrphan, BlockSite.isOrphan, callsSuper]

/-- One more block is taken into account, whose name a block before has exactly if a template above
contains it. -/
theorem Indexes.add (indexes : Indexes sites index)
    (known : site.block.name ∈ sites.map (·.block.name) ↔ site.inherits = true) :
    Answers (sites ++ [site]) (BlockIndex.add site.position index site.block) := by
  have contains := indexes.contains_iff.trans known
  unfold BlockIndex.add
  -- what the index knows is what is inherited, so its test is this one
  cases inherits : site.inherits with
  | true =>
      rw [if_pos (contains.mpr inherits)]
      exact indexes.override (known.mpr inherits) inherits
  | false =>
      have notInherits : ¬ site.inherits = true := Bool.eq_false_iff.mp inherits
      rw [if_neg (mt contains.mp notInherits)]
      cases callsSuper : site.block.callsSuper with
      | true =>
          rw [if_pos rfl]
          refine ⟨site, ?_, rfl⟩
          simp [List.find?_append, indexes.noOrphan, BlockSite.isOrphan, inherits, callsSuper]
      | false =>
          rw [if_neg Bool.false_ne_true]
          exact indexes.define (mt known.mp notInherits) inherits callsSuper

/-- After a failure nothing more is taken into account. -/
theorem Answers.bind {outcome : Except Failure BlockIndex}
    {next : BlockIndex → Except Failure BlockIndex} (first : Answers sites outcome)
    (isPrefix : sites <+: more)
    (further : ∀ index, Indexes sites index → Answers more (next index)) :
    Answers more (outcome >>= next) := by
  cases outcome with
  | ok index => exact further index first
  | error failure =>
      obtain ⟨rest, rfl⟩ := isPrefix
      obtain ⟨site, found, rfl⟩ := first
      exact ⟨site, by rw [List.find?_append, found, Option.some_or], rfl⟩

/-! ## The index of a chain -/

/-- The blocks of a template are taken into account, all of them with the same templates above. -/
theorem Indexes.addBlocks {above : List Tier} {tier : Tier} {blocks : List Block}
    (indexes : Indexes sites index) (distinct : (blocks.map (·.name)).Nodup)
    (known : ∀ block ∈ blocks,
      (block.name ∈ sites.map (·.block.name) ↔ above.any (·.defines block.name) = true)) :
    Answers (sites ++ blocks.map fun block => ⟨above, tier, block⟩)
      (blocks.foldlM (BlockIndex.add
        ⟨tier.name, above.isEmpty, (above.flatMap Tier.blockNames).eraseDups⟩) index) := by
  induction blocks generalizing sites index with
  | nil =>
      rw [List.map_nil, List.append_nil]
      exact indexes
  | cons block blocks ih =>
      rw [List.map_cons, List.nodup_cons] at distinct
      have first : Answers (sites ++ [⟨above, tier, block⟩]) _ :=
        indexes.add (known block List.mem_cons_self)
      rw [List.foldlM_cons, List.map_cons, List.append_cons]
      apply first.bind (List.prefix_append _ _)
      intro next indexesNext
      apply ih indexesNext distinct.2
      intro other member
      have different : other.name ≠ block.name := by
        intro same
        exact distinct.1 (same ▸ List.mem_map_of_mem member)
      rw [← known other (List.mem_cons_of_mem _ member), List.map_append, List.mem_append]
      simp [different]

theorem Indexes.addTier {above : List Tier} {tier : Tier}
    (indexes : Indexes (blockSites above) index) (distinct : tier.blockNames.Nodup) :
    Answers (blockSites (above ++ [tier])) (BlockIndex.addTier above.isEmpty index tier) := by
  have inherited : index.blocks.keys = (above.flatMap Tier.blockNames).eraseDups := by
    rw [indexes.keys, map_name_blockSites]
  rw [blockSites_concat, BlockIndex.addTier, inherited]
  apply indexes.addBlocks distinct
  intro block _
  rw [map_name_blockSites, mem_blockNames_flatMap_iff]

theorem Indexes.addTiers {above below : List Tier} (indexes : Indexes (blockSites above) index)
    (extending : above ≠ []) (distinct : ∀ tier ∈ below, tier.blockNames.Nodup) :
    Answers (blockSites (above ++ below)) (index.addTiers below) := by
  induction below generalizing above index with
  | nil =>
      rw [List.append_nil]
      exact indexes
  | cons tier below ih =>
      have notRoot : above.isEmpty = false := by simpa using extending
      have first := indexes.addTier (distinct tier List.mem_cons_self)
      rw [notRoot] at first
      rw [BlockIndex.addTiers, List.foldlM_cons, List.append_cons]
      apply first.bind (blockSites_isPrefix _ _)
      intro next indexesNext
      exact ih indexesNext (by simp) fun other member =>
        distinct other (List.mem_cons_of_mem _ member)

/-- The blocks of a chain have the index that their sites call for. -/
theorem answers_ofChain {chain : Chain} (distinct : ∀ tier ∈ chain.tiers, tier.blockNames.Nodup) :
    Answers (blockSites chain.tiers) (ofChain chain) := by
  have tiers : chain.tiers = [chain.root] ++ chain.tiers.tail :=
    (List.cons_head_tail chain.tiers_ne_nil).symm
  have start : Indexes (blockSites []) empty := indexes_empty
  have root := start.addTier (distinct chain.root (List.head_mem _))
  rw [tiers]
  apply root.bind (blockSites_isPrefix _ _)
  intro index indexes
  exact indexes.addTiers (by simp) fun tier member => distinct tier (List.mem_of_mem_tail member)

/-- Without an orphan there is an index. -/
theorem exists_indexes {chain : Chain} (distinct : ∀ tier ∈ chain.tiers, tier.blockNames.Nodup)
    (noOrphan : (blockSites chain.tiers).find? BlockSite.isOrphan = none) :
    ∃ index, ofChain chain = .ok index ∧ Indexes (blockSites chain.tiers) index := by
  have answers := answers_ofChain distinct
  cases done : ofChain chain with
  | error failure =>
      rw [done] at answers
      obtain ⟨site, orphan, _⟩ := answers
      exact nomatch noOrphan.symm.trans orphan
  | ok index =>
      rw [done] at answers
      exact ⟨index, rfl, answers⟩

/-- An outcome is a failure exactly if the sites call for it. -/
theorem Answers.eq_error_iff {outcome : Except Failure BlockIndex}
    (answers : Answers sites outcome) {failure : Failure} :
    outcome = .error failure ↔
      ∃ site, sites.find? BlockSite.isOrphan = some site ∧ failure = site.failure := by
  cases outcome with
  | error other =>
      obtain ⟨orphan, isFirst, rfl⟩ := answers
      rw [isFirst, Except.error.injEq]
      simp only [Option.some.injEq, exists_eq_left']
      exact eq_comm
  | ok index => simp [answers.noOrphan]

theorem Indexes.mem_values_iff (indexes : Indexes sites index) {definition : BlockDefinition} :
    definition ∈ index.blocks.values ↔ index.get? definition.name = some definition := by
  refine indexes.indexed.mem_values_iff fun name definition found => ?_
  rw [← get?, indexes.definitions] at found
  cases versions : (sites.filter (·.block.name = name)).map BlockSite.version with
  | nil =>
      rw [versions] at found
      cases found
  | cons first later =>
      rw [versions] at found
      cases found
      rfl

/-- The rendered version of a block is the last one. -/
theorem effectiveTemplate_ofVersions {name : String} {versions : List BlockOverride}
    {definition : BlockDefinition}
    (found : BlockDefinition.ofVersions name versions = some definition) :
    versions.getLast?.map (·.template) = some definition.effectiveTemplate := by
  cases versions with
  | nil => cases found
  | cons first later =>
      cases found
      rw [BlockDefinition.effectiveTemplate, List.getLast?_cons]
      cases later.getLast? <;> rfl

/-- Of the chain that a resolution finds no template contains two blocks of the same name.  There is
no index of its blocks exactly if some block calls `super()` and no template above contains a block
of that name, and the failure is about the first such site.  An index lists each name once, in the
order of the first sites.  The first template that contains a block defines it, each later one that
does overrides it once, with its own `super` flag, and the last one is in effect.  The warnings are
those about the dead blocks, in the order of their sites. -/
theorem ofChain_blockSites {resolution : Resolution} {intake : Intake} {chain : Chain}
    (readings : intake.parses.HoldsReadings) (found : (resolution.run intake).1 = .ok chain) :
    (∀ tier ∈ chain.tiers, tier.blockNames.Nodup) ∧
    (∀ failure, ofChain chain = .error failure ↔
      ∃ site, (blockSites chain.tiers).find? BlockSite.isOrphan = some site ∧
        failure = .superWithoutAncestor site.tier.name site.block.name) ∧
    ∀ index, ofChain chain = .ok index →
      index.blocks.keys = (chain.tiers.flatMap Tier.blockNames).eraseDups ∧
      (∀ name definition, index.get? name = some definition ↔ ∃ first later,
        chain.versions name = first :: later ∧ definition = ⟨name, first.template, later⟩) ∧
      (∀ name definition, index.get? name = some definition →
        (chain.versions name).getLast?.map (·.template) = some definition.effectiveTemplate) ∧
      (∀ definition, definition ∈ index.blocks.values ↔
        index.get? definition.name = some definition) ∧
      index.warnings =
        ((blockSites chain.tiers).filter BlockSite.isDead).map BlockSite.warning := by
  have distinct := Resolution.run_blockNames_nodup readings found
  have answers := answers_ofChain distinct
  refine ⟨distinct, fun failure => answers.eq_error_iff, ?_⟩
  intro index done
  rw [done] at answers
  have indexes : Indexes (blockSites chain.tiers) index := answers
  have definitions : ∀ name,
      index.get? name = BlockDefinition.ofVersions name (chain.versions name) := by
    intro name
    rw [indexes.definitions, versions_blockSites distinct, Chain.versions]
  refine ⟨?_, ?_, ?_, fun definition => indexes.mem_values_iff, indexes.warnings⟩
  · rw [indexes.keys, map_name_blockSites]
  · intro name definition
    rw [definitions]
    cases chain.versions name with
    | nil => simp [BlockDefinition.ofVersions]
    | cons first later => simp [BlockDefinition.ofVersions, eq_comm]
  · intro name definition look
    rw [definitions] at look
    exact effectiveTemplate_ofVersions look

/-- A block that is defined inside another one and overridden further down, and one with a
misspelled name that nothing renders. -/
theorem ofChain_blockSites_misspelled :
    let root := Source.ofText (Sample.block "body" "")
    let page := Source.ofText (Sample.extendsTag "root" ++
      Sample.block "body" (Sample.output "super()" ++ Sample.block "aside" ""))
    let leaf := Source.ofText
      (Sample.extendsTag "page" ++ Sample.block "aside" "" ++ Sample.block "bode" "")
    let library : Library := ⟨[("root", root), ("page", page), ("leaf", leaf)]⟩
    let chain : Chain :=
      ⟨[⟨"root", root, "root", [.block ⟨"body", false, none, 1⟩]⟩,
        ⟨"page", page, "page", [.extends (.literal "root") 1, .block ⟨"body", true, none, 1⟩,
          .block ⟨"aside", false, some "body", 1⟩]⟩,
        ⟨"leaf", leaf, "leaf", [.extends (.literal "page") 1,
          .block ⟨"aside", false, none, 1⟩, .block ⟨"bode", false, none, 1⟩]⟩],
        List.cons_ne_nil _ _⟩
    (Resolution.run ⟨library.lookup, "leaf", 3⟩ .empty).1 = .ok chain ∧
      ∃ index, ofChain chain = .ok index ∧ index.blocks.keys = ["body", "aside", "bode"] ∧
        index.get? "body" = some ⟨"body", "root", [⟨"page", true⟩]⟩ ∧
        index.get? "aside" = some ⟨"aside", "page", [⟨"leaf", false⟩]⟩ ∧
        index.warnings = [⟨"bode", "leaf", 1, some "body"⟩] := by
  intro root page leaf library chain
  have found : (Resolution.run ⟨library.lookup, "leaf", 3⟩ .empty).1 = .ok chain := by
    refine Resolution.run_of_isChain rfl (by decide) (by decide) ?_ (by decide) (Nat.le_refl 3)
      (ParseCache.truthful_empty _)
    simp only [chain, List.forall_mem_cons]
    exact ⟨⟨rfl, by decide +kernel⟩, ⟨rfl, by decide +kernel⟩, ⟨rfl, by decide +kernel⟩, by simp⟩
  obtain ⟨_, failures, success⟩ := ofChain_blockSites ParseCache.holdsReadings_empty found
  refine ⟨found, ?_⟩
  cases done : ofChain chain with
  | error failure =>
      obtain ⟨site, orphan, _⟩ := (failures failure).mp done
      have noOrphan : (blockSites chain.tiers).find? BlockSite.isOrphan = none := by decide +kernel
      exact nomatch noOrphan.symm.trans orphan
  | ok index =>
      obtain ⟨keys, definitions, _, _, warnings⟩ := success index done
      refine ⟨index, rfl, ?_, ?_, ?_, ?_⟩
      · rw [keys]
        decide +kernel
      · exact (definitions _ _).mpr ⟨_, _, by rfl, rfl⟩
      · exact (definitions _ _).mpr ⟨_, _, by rfl, rfl⟩
      · rw [warnings]
        decide +kernel

end BlockIndex

end Lineage
